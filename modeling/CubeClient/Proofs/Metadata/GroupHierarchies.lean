import CubeClient.Proofs.Metadata.DerivedHierarchies
import CubeClient.Proofs.Metadata.GroupDimensions

/-!
# The hierarchies of a measure group

A cube and each of its measure groups join the hierarchies of their own dimensions, and each keeps
what it has joined. But the dimensions of the group are among those of the cube. So once the cube
has its list, a call for that of the group finds everything that it needs: it sends nothing, nobody
it waits for waits for a reply, and it answers a list (`Effortless`). No name came twice in the list
of the cube, so none does in any part of it (`apart_of_nodup`).
-/

namespace CubeClient

open CubeClient.Deferred

namespace DerivedHierarchies

variable {events later : List (Event TreeKey)} {dims : Collection}
  {dimensions : Listing MetadataObject} {lists : List (Listing MetadataObject)} {i j : Nat}
  {r s : Reader TreeKey MetadataObject} {key other : TreeKey} {d : MetadataObject}

/-! ## What a call needs -/

/-- The lists that may be read on behalf of a call, if the dimensions are these. -/
inductive Needs (dims : Collection) (dimensions : Listing MetadataObject) : TreeKey → Prop
  | top : Needs dims dimensions (.listed dims)
  | below {d : MetadataObject} (hd : d ∈ dimensions.items.toList) :
      Needs dims dimensions (.hierarchies d)
  | cube (hkind : dims.kind = .groupDimensions) :
      Needs dims dimensions (.listed dims.cubeDimensions)

/-- All lists are there that may be read on behalf of a call. -/
structure Supplied (c : Config TreeKey MetadataObject) (dims : Collection)
    (dimensions : Listing MetadataObject) : Prop where
  top : (c.cells (.listed dims)).state = .populated dimensions
  needs : ∀ {key : TreeKey}, Needs dims dimensions key →
    ∃ listing, (c.cells key).state = .populated listing

theorem Supplied.append (h : Supplied (Config.run TreeKey.family events) dims dimensions)
    (later : List (Event TreeKey)) :
    Supplied (Config.run TreeKey.family (events ++ later)) dims dimensions := by
  have hc := Config.Coherent.run TreeKey.family events
  rw [Config.run_append]
  refine ⟨Config.state_foldl hc h.top later, fun hkey => ?_⟩
  obtain ⟨listing, hs⟩ := h.needs hkey
  exact ⟨listing, Config.state_foldl hc hs later⟩

/-- Whoever reads for a call reads what the call needs. -/
theorem Supplied.closed (h : Supplied (Config.run TreeKey.family events) dims dimensions)
    (hreads : (TreeKey.terms events).reads key other)
    (hkey : key = .derived dims ∨ Needs dims dimensions key) :
    other = .derived dims ∨ Needs dims dimensions other := by
  right
  rcases hkey with rfl | hkey
  · rcases hreads with rfl | ⟨d, ⟨listing, hs, hd⟩, rfl⟩
    · exact .top
    · obtain rfl := CellState.populated.inj (hs.symm.trans h.top)
      exact .below hd
  · cases hkey with
    | top =>
      obtain ⟨hkind, rfl⟩ := hreads
      exact .cube hkind
    | below => cases hreads.1
    | cube => cases hreads.1

/-! ## Calls that find everything -/

/-- A call had not begun to join the lists at a time. -/
def Fresh (c : Config TreeKey MetadataObject) (i : Nat) : Prop :=
  ∀ r, c.readers[i]? = some r → r.phase.own? = none

/-- Nobody who reads on behalf of the call makes an attempt. -/
theorem Supplied.own?_eq_none (h : Supplied (Config.run TreeKey.family events) dims dimensions)
    (hfresh : Fresh (Config.run TreeKey.family events) i)
    (hr : (Config.run TreeKey.family (events ++ later)).readers[i]? = some r)
    (hkey : r.key = .derived dims)
    (hs : (Config.run TreeKey.family (events ++ later)).readers[j]? = some s)
    (hi : i ∈ s.ancestors) : s.phase.own? = none := by
  have hc := Config.Coherent.run TreeKey.family events
  have hnested := Config.Nested.run TreeKey.family (events ++ later)
  obtain ⟨outer, houter, a, hran⟩ := exists_of_forall₂ (hnested.tracked hs) hi
  obtain ⟨q, hq, rfl, -⟩ := hran
  obtain rfl := Option.some.inj (hr.symm.trans hq)
  rw [hkey] at houter
  -- Who reads for the call has one of its keys, and no call is made for another call.
  rcases (TreeKey.kept (events ++ later)).of_within (fun _ _ => (h.append later).closed) hs houter
    (.inl rfl) with hderived | hneeds
  · rw [ancestors_eq_nil hs hderived] at hi
    exact absurd hi List.not_mem_nil
  · obtain ⟨listing, hlisting⟩ := h.needs hneeds
    rw [Config.run_append] at hs
    have hnone := (Config.Nested.run TreeKey.family events).getElem?_eq_none hc.linked hfresh hs hi
    apply hc.own?_eq_none hlisting hs rfl
    intro q hq
    rw [hnone] at hq
    cases hq

/-- A new call on behalf of which everything is there gets no error back. -/
theorem Supplied.not_returned_error
    (h : Supplied (Config.run TreeKey.family events) dims dimensions)
    (hfresh : Fresh (Config.run TreeKey.family events) i)
    (hr : (Config.run TreeKey.family (events ++ later)).readers[i]? = some r)
    (hkey : r.key = .derived dims) (e : ClientError) :
    ¬ (Config.run TreeKey.family (events ++ later)).Returned i key (.error e) := by
  rintro ⟨j, ⟨s, hs, hhead, -⟩, hresult⟩
  have hown := h.own?_eq_none hfresh hr hkey hs (List.mem_of_head? hhead)
  rw [Config.result?, hs, Option.bind_some] at hresult
  obtain ⟨own, hp⟩ := Phase.eq_finished_of_result? hresult
  rw [hp] at hown
  -- An error without an attempt is a refusal, and these keys never come back to themselves.
  obtain rfl : own = none := hown
  have hwithin := (Config.Answered.run TreeKey.family (events ++ later)).refused hs hp
  exact (TreeKey.kept (events ++ later)).key_notMem_within (fun _ _ => TreeKey.rank_lt_of_reads)
    hs hwithin

/-- On behalf of a new call for which everything is there, nothing is sent. -/
theorem Supplied.not_sentFor (h : Supplied (Config.run TreeKey.family events) dims dimensions)
    (hfresh : Fresh (Config.run TreeKey.family events) i)
    (hr : (Config.run TreeKey.family (events ++ later)).readers[i]? = some r)
    (hkey : r.key = .derived dims) {sent : Sent}
    (hsent : sent ∈ (Config.run TreeKey.family (events ++ later)).sent) :
    ¬ (Config.run TreeKey.family (events ++ later)).SentFor i sent := by
  rintro ⟨j, q, hq, rfl | hi, hown⟩
  · have hattempt := (Config.Coherent.run TreeKey.family (events ++ later)).guarded.runner.mpr
      ⟨j, q, hq, rfl, hown⟩
    obtain ⟨coll, hlisted, -⟩ := TreeKey.sent_cases hsent hattempt
    obtain rfl := Option.some.inj (hr.symm.trans hq)
    rw [hkey] at hlisted
    cases hlisted
  · rw [h.own?_eq_none hfresh hr hkey hq hi] at hown
    cases hown

/-- A call for derived lists waits for no reply itself. -/
theorem not_awaitingReply {a q : Nat} {next : Reply → Population TreeKey MetadataObject}
    (hr : (Config.run TreeKey.family events).readers[i]? = some r) (hkey : r.key = .derived dims) :
    r.phase ≠ .awaitingReply a q next := by
  intro hp
  have hown : r.phase.own? = some a := by
    rw [hp]
    rfl
  rcases (Config.Traced.run TreeKey.family events).way hr hown with ⟨own, hgone⟩ | ⟨_, htrace, -⟩
  · rw [hp] at hgone
    cases hgone
  · rw [hp] at htrace
    cases htrace with
    | awaitingReply _ hq =>
      have hattempt := (Config.Coherent.run TreeKey.family events).guarded.runner.mpr
        ⟨i, r, hr, hkey, hown⟩
      obtain ⟨coll, hlisted, -⟩ := TreeKey.sent_cases (List.mem_of_getElem? hq) hattempt
      cases hlisted

/-- As long as a call is not over, somebody it waits for can move, or it can itself. -/
theorem Supplied.exists_mover (h : Supplied (Config.run TreeKey.family events) dims dimensions)
    (hr : (Config.run TreeKey.family events).readers[i]? = some r) (hkey : r.key = .derived dims)
    (hlive : r.phase.isOver = false) :
    ∃ j s, Relation.ReflTransGen (Config.WaitsFor (Config.run TreeKey.family events)) i j ∧
      (Config.run TreeKey.family events).readers[j]? = some s ∧
      (Config.run TreeKey.family events).canMove s = true := by
  have hc := Config.Coherent.run TreeKey.family events
  have hnested := Config.Nested.run TreeKey.family events
  obtain ⟨j, s, hpath, hs, hmoves⟩ := (Config.Ranked.run TreeKey.rankedBy_rank events).exists_mover
    hc (.run TreeKey.family events) hr hlive
  refine ⟨j, s, hpath, hs, hmoves.resolve_right ?_⟩
  -- Along the way of waiting, everybody reads the call's own list or what the call needs.
  have hneeds : ∀ {k : Nat}, Relation.ReflTransGen (Config.WaitsFor
      (Config.run TreeKey.family events)) i k → ∀ t, (Config.run TreeKey.family events).readers[k]?
      = some t → t.key = .derived dims ∨ Needs dims dimensions t.key := by
    intro k hk
    induction hk with
    | refl =>
      intro t ht
      obtain rfl := Option.some.inj (hr.symm.trans ht)
      exact .inl hkey
    | tail _ hwait ih =>
      intro t ht
      cases hwait with
      | attempt hq hp hj =>
        obtain rfl := hc.key_of_waiting hq hp hj
        obtain ⟨t', ht', hsame, -⟩ := hj
        obtain rfl := Option.some.inj (ht.symm.trans ht')
        rw [hsame]
        exact ih _ hq
      | answer hq hj _ =>
        obtain ⟨t', ht', hancestors, -⟩ := hc.linked.child hq hj
        obtain rfl := Option.some.inj (ht.symm.trans ht')
        have hissued : (Config.run TreeKey.family events).Issued _ _ t.key :=
          ⟨t, ht, by rw [hancestors]; rfl, rfl⟩
        have hreads := (TreeKey.kept events).reads_of_issued hnested hq hissued
        exact h.closed hreads (ih _ hq)
  rintro ⟨a, q, next, hp⟩
  rcases hneeds hpath s hs with hderived | hneeds
  · exact not_awaitingReply hs hderived hp
  · obtain ⟨listing, hlisting⟩ := h.needs hneeds
    have hidle := hc.idle hlisting hs rfl
    rw [hp] at hidle
    cases hidle

/-! ## What a call answers -/

/-- The hierarchies that are listed of a dimension. -/
def hierarchiesOf (c : Config TreeKey MetadataObject) (d : MetadataObject) :
    NamedList MetadataObject :=
  ((c.cells (.hierarchies d)).published.map (·.items)).getD .empty

theorem hierarchiesOf_eq {c : Config TreeKey MetadataObject} (hc : Config.Coherent c)
    {list : Listing MetadataObject}
    (hs : (c.cells (.hierarchies d)).state = .populated list) :
    hierarchiesOf c d = list.items := by
  rw [hierarchiesOf, hc.cell_of_populated hs]
  rfl

/-- They are the objects that the dimension holds. -/
theorem mem_hierarchiesOf_iff {list : Listing MetadataObject} {h : MetadataObject}
    (hs : ((Config.run TreeKey.family events).cells (.hierarchies d)).state = .populated list) :
    h ∈ (hierarchiesOf (Config.run TreeKey.family events) d).toList ↔
      Held events (.hierarchies d) h := by
  rw [hierarchiesOf_eq (.run TreeKey.family events) hs]
  constructor
  · intro hmem
    exact ⟨list, hs, hmem⟩
  · rintro ⟨other, hother, hmem⟩
    obtain rfl := CellState.populated.inj (hother.symm.trans hs)
    exact hmem

theorem Holds.map_items {c : Config TreeKey MetadataObject} (h : Holds c dims dimensions lists)
    (hc : Config.Coherent c) :
    lists.map (·.items) = dimensions.items.toList.map (hierarchiesOf c) := by
  obtain ⟨-, hbelow⟩ := h
  generalize dimensions.items.toList = ds at hbelow
  induction hbelow with
  | nil => rfl
  | cons hlist _ ih => rw [List.map_cons, List.map_cons, ih, hierarchiesOf_eq hc hlist]

theorem Holds.flatMap_items {c : Config TreeKey MetadataObject} (h : Holds c dims dimensions lists)
    (hc : Config.Coherent c) :
    lists.flatMap (·.items.toList) =
      dimensions.items.toList.flatMap fun d => (hierarchiesOf c d).toList := by
  rw [← List.flatMap_map, h.map_items hc, List.flatMap_map]

/-- The hierarchies of a dimension that are there stay the same. -/
theorem Supplied.hierarchiesOf_append
    (h : Supplied (Config.run TreeKey.family events) dims dimensions)
    (later : List (Event TreeKey)) (hd : d ∈ dimensions.items.toList) :
    hierarchiesOf (Config.run TreeKey.family (events ++ later)) d =
      hierarchiesOf (Config.run TreeKey.family events) d := by
  have hc := Config.Coherent.run TreeKey.family events
  obtain ⟨list, hs⟩ := h.needs (.below hd)
  have hlater : ((Config.run TreeKey.family (events ++ later)).cells (.hierarchies d)).state =
      .populated list := by
    rw [Config.run_append]
    exact Config.state_foldl hc hs later
  rw [hierarchiesOf_eq hc hs, hierarchiesOf_eq (.run TreeKey.family (events ++ later)) hlater]

/-- The list that a later call makes is that of the hierarchies at hand. -/
theorem Supplied.toList_of_populated
    (h : Supplied (Config.run TreeKey.family events) dims dimensions)
    {listing : Listing MetadataObject}
    (hs : ((Config.run TreeKey.family (events ++ later)).cells (.derived dims)).state =
      .populated listing) :
    listing.items.toList = dimensions.items.toList.flatMap fun d =>
      (hierarchiesOf (Config.run TreeKey.family events) d).toList := by
  obtain ⟨dimensions', lists, hholds, hitems⟩ := DerivedHierarchies.toList_of_populated hs
  obtain rfl := CellState.populated.inj (hholds.top.symm.trans (h.append later).top)
  rw [hitems, hholds.flatMap_items (.run TreeKey.family (events ++ later))]
  apply List.flatMap_congr
  intro d hd
  rw [h.hierarchiesOf_append later hd]

/-- A new call does not fail, if no unique name comes twice. -/
theorem Supplied.ok_of_ended (h : Supplied (Config.run TreeKey.family events) dims dimensions)
    (hapart : NamedList.Apart
      (dimensions.items.toList.map (hierarchiesOf (Config.run TreeKey.family events))))
    (hfresh : Fresh (Config.run TreeKey.family events) i) {own : Option Nat}
    {result : ReadResult MetadataObject}
    (hended : Ended (Config.run TreeKey.family (events ++ later)) i dims own result) :
    ∃ listing, result = .ok listing := by
  obtain ⟨r, hr, hkey, hp⟩ := hended
  cases own with
  | none =>
    obtain ⟨listing, hlisting, -⟩ := (answers (events ++ later) dims).shared ⟨r, hr, hkey, hp⟩
    exact ⟨listing, hlisting⟩
  | some a =>
    obtain ⟨outcome, houtcome, rfl⟩ := outcome_of_ended ⟨r, hr, hkey, hp⟩
    cases houtcome with
    | dimensions hfailed => exact (h.not_returned_error hfresh hr hkey _ hfailed).elim
    | hierarchies _ _ hfailed => exact (h.not_returned_error hfresh hr hkey _ hfailed).elim
    | @joined dimensions' lists hfinds =>
      -- What has been joined are the lists of before, so they are still apart.
      have hholds := hfinds.holds
      obtain rfl := CellState.populated.inj (hholds.top.symm.trans (h.append later).top)
      have hsame : lists.map (·.items) = dimensions'.items.toList.map
          (hierarchiesOf (Config.run TreeKey.family events)) := by
        rw [hholds.map_items (.run TreeKey.family (events ++ later))]
        exact List.map_congr_left fun d hd => h.hierarchiesOf_append later hd
      obtain ⟨list, hjoin, -⟩ := Collection.join_of_apart dims.derivedLabel (hsame ▸ hapart)
      rw [hjoin]
      exact ⟨_, rfl⟩

/-- What is said of calls that had not begun to join the lists at a time: they need nothing from the
server ever after. -/
structure Effortless (events : List (Event TreeKey)) (dims : Collection)
    (items : List MetadataObject) : Prop where
  /-- A call that is over and was not given up has answered these objects, in this order. -/
  answers : ∀ {later : List (Event TreeKey)} {i : Nat} {r : Reader TreeKey MetadataObject},
    Fresh (Config.run TreeKey.family events) i →
    (Config.run TreeKey.family (events ++ later)).readers[i]? = some r → r.key = .derived dims →
    r.phase.isOver = true → Event.giveUp i ∉ events ++ later →
    ∃ own listing, r.phase = .finished own (.ok listing) ∧ listing.items.toList = items
  /-- Nothing is sent for it, by whoever reads on its behalf. -/
  silent : ∀ {later : List (Event TreeKey)} {i : Nat} {r : Reader TreeKey MetadataObject},
    Fresh (Config.run TreeKey.family events) i →
    (Config.run TreeKey.family (events ++ later)).readers[i]? = some r → r.key = .derived dims →
    ∀ sent ∈ (Config.run TreeKey.family (events ++ later)).sent,
      ¬ (Config.run TreeKey.family (events ++ later)).SentFor i sent
  /-- As long as it is not over, it can move, or somebody can that it waits for. -/
  moves : ∀ {later : List (Event TreeKey)} {i : Nat} {r : Reader TreeKey MetadataObject},
    (Config.run TreeKey.family (events ++ later)).readers[i]? = some r → r.key = .derived dims →
    r.phase.isOver = false → ∃ j s,
      Relation.ReflTransGen
        (Config.WaitsFor (Config.run TreeKey.family (events ++ later))) i j ∧
      (Config.run TreeKey.family (events ++ later)).readers[j]? = some s ∧
      (Config.run TreeKey.family (events ++ later)).canMove s = true
  /-- And readers do not move for ever. -/
  rests : ∀ (later : List (Event TreeKey)) (configs : Nat → Config TreeKey MetadataObject),
    configs 0 = Config.run TreeKey.family (events ++ later) →
    ¬ ∀ n, Config.Goes TreeKey.family (configs n) (configs (n + 1))

/-- A call for which everything is there is answered without effort. -/
theorem Supplied.effortless (h : Supplied (Config.run TreeKey.family events) dims dimensions)
    (hapart : NamedList.Apart
      (dimensions.items.toList.map (hierarchiesOf (Config.run TreeKey.family events)))) :
    Effortless events dims (dimensions.items.toList.flatMap fun d =>
      (hierarchiesOf (Config.run TreeKey.family events) d).toList) where
  answers {later i r} hfresh hr hkey hover hkept := by
    cases hp : r.phase with
    | finished own result =>
      have hended : Ended (Config.run TreeKey.family (events ++ later)) i dims own result :=
        ⟨r, hr, hkey, hp⟩
      obtain ⟨listing, rfl⟩ := h.ok_of_ended hapart hfresh hended
      exact ⟨own, listing, rfl, h.toList_of_populated (populated_of_ended hended)⟩
    | abandoned own =>
      exact absurd (Config.mem_of_abandoned hr (ancestors_eq_nil hr hkey) hp) hkept
    | _ => rw [hp] at hover; cases hover
  silent hfresh hr hkey sent hsent := h.not_sentFor hfresh hr hkey hsent
  moves {later} _ _ hr hkey hlive := (h.append later).exists_mover hr hkey hlive
  rests later := (settles (events ++ later) dims).rests

end DerivedHierarchies

/-! ## The part of the cube's list -/

section Part

variable {ι : Type} [Named ι] {α : Type} {f : α → NamedList ι}

/-- If no name comes twice in some lists, none does in a selection of them, in any order. -/
theorem apart_of_nodup {whole part : List α}
    (h : ((whole.flatMap fun x => (f x).toList).map Named.uniqueName).Nodup)
    (hpart : part.Nodup) (hsub : ∀ x ∈ part, x ∈ whole) : NamedList.Apart (part.map f) := by
  have hwhole : NamedList.Apart (whole.map f) := by
    rw [NamedList.apart_iff_nodup, List.flatMap_map]
    exact h
  rw [NamedList.Apart, List.pairwise_map] at hwhole ⊢
  have hsymm : Std.Symm fun x y : α => (f x).uniqueNames.Disjoint (f y).uniqueNames :=
    ⟨fun _ _ hdisjoint => hdisjoint.symm⟩
  apply hpart.pairwise_of_forall_ne
  intro x hx y hy hne
  exact hwhole.forall (hsub x hx) (hsub y hy) hne

end Part

open DerivedHierarchies in
/-- The list of a measure group next to that of its cube. -/
structure GroupView (events : List (Event TreeKey)) (g : Collection)
    (members view : NamedList MetadataObject) : Prop where
  /-- The hierarchies of the dimensions of the group, one behind the other. -/
  calls : Effortless events g (members.toList.flatMap fun d =>
    (hierarchiesOf (Config.run TreeKey.family events) d).toList)
  shared : ∀ h ∈ members.toList.flatMap fun d =>
    (hierarchiesOf (Config.run TreeKey.family events) d).toList, h ∈ view.toList
  mem_iff : ∀ h ∈ view.toList, (h ∈ members.toList.flatMap fun d =>
    (hierarchiesOf (Config.run TreeKey.family events) d).toList) ↔
      ∃ d ∈ members.toList, Held events (.hierarchies d) h

open DerivedHierarchies in
/-- Once the cube has its list of hierarchies and a measure group its dimensions, calls for the
hierarchies of the group succeed without the server. Their list is the part of the cube's list that
belongs to the dimensions of the group, in the order of these. -/
theorem group_view_of_cube_view {events : List (Event TreeKey)} {connection : Connection}
    {catalog schema cube : String} {p o : MetadataObject} {view members : Listing MetadataObject}
    (hp : At events connection (.cube catalog schema cube) p)
    (ho : Held events (.listed ⟨p.scope, .measureGroups⟩) o)
    (hview : ((Config.run TreeKey.family events).cells (.derived ⟨p.scope, .dimensions⟩)).state =
      .populated view)
    (hmembers : ((Config.run TreeKey.family events).cells
      (.listed ⟨o.scope, .groupDimensions⟩)).state = .populated members) :
    GroupView events ⟨o.scope, .groupDimensions⟩ members.items view.items := by
  have hc := Config.Coherent.run TreeKey.family events
  have hcube := hp.cubeDimensions_of_held ho
  obtain ⟨dimensions, lists, hholds, hitems⟩ := toList_of_populated hview
  rw [hholds.flatMap_items hc] at hitems
  have hsub : ∀ d ∈ members.items.toList, d ∈ dimensions.items.toList := by
    intro d hd
    have hheld : Held events (.listed ⟨o.scope, .groupDimensions⟩) d := ⟨members, hmembers, hd⟩
    obtain ⟨listing, hs, hmem⟩ := hheld.ofCube rfl
    rw [hcube] at hs
    obtain rfl := CellState.populated.inj (hs.symm.trans hholds.top)
    exact hmem
  have hlisted : ∀ d ∈ dimensions.items.toList, ∃ list,
      ((Config.run TreeKey.family events).cells (.hierarchies d)).state = .populated list := by
    intro d hd
    obtain ⟨list, -, hlist⟩ := exists_of_forall₂ hholds.below hd
    exact ⟨list, hlist⟩
  have hsupplied : Supplied (Config.run TreeKey.family events) ⟨o.scope, .groupDimensions⟩
      members := by
    refine ⟨hmembers, fun hkey => ?_⟩
    cases hkey with
    | top => exact ⟨members, hmembers⟩
    | below hd => exact hlisted _ (hsub _ hd)
    | cube => exact ⟨dimensions, hcube ▸ hholds.top⟩
  have hapart : NamedList.Apart
      (members.items.toList.map (hierarchiesOf (Config.run TreeKey.family events))) := by
    have hnodup := view.items.nodup
    rw [hitems] at hnodup
    exact apart_of_nodup hnodup members.items.nodup.of_map hsub
  refine ⟨hsupplied.effortless hapart, fun h hh => ?_, fun h _ => ?_⟩
  · obtain ⟨d, hd, hmem⟩ := List.mem_flatMap.mp hh
    rw [hitems]
    exact List.mem_flatMap.mpr ⟨d, hsub d hd, hmem⟩
  · rw [List.mem_flatMap]
    apply exists_congr
    intro d
    apply and_congr_right
    intro hd
    obtain ⟨list, hs⟩ := hlisted d (hsub d hd)
    exact mem_hierarchiesOf_iff hs

def foodMartHierarchy (d : MetadataObject) (name uniqueName : String) : MetadataObject where
  scope := d.scope.child .hierarchies uniqueName
    { d.scope.context with hierarchy := some uniqueName }
  detail := .hierarchy {
    name, uniqueName
    caption := name
    description := none
    allMember := none
    defaultMember := none }

def foodMartTimes : NamedList MetadataObject :=
  ⟨[foodMartHierarchy (foodMartDimension "Time" "[Time]") "Calendar" "[Time]",
    foodMartHierarchy (foodMartDimension "Time" "[Time]") "Weekly" "[Time.Weekly]"], by decide⟩

def foodMartStores : NamedList MetadataObject :=
  single (foodMartHierarchy (foodMartDimension "Store" "[Store]") "Store" "[Store]")

def foodMartHierarchies : NamedList MetadataObject :=
  ⟨foodMartTimes.toList ++ foodMartStores.toList, by decide⟩

/-- The lists that the cube's hierarchies are joined from, and these. -/
def foodMartViews : List (TreeKey × NamedList MetadataObject) :=
  (.derived ⟨foodMartCube.scope, .dimensions⟩, foodMartHierarchies) ::
  (.hierarchies (foodMartDimension "Store" "[Store]"), foodMartStores) ::
  (.hierarchies (foodMartDimension "Time" "[Time]"), foodMartTimes) ::
  (.listed foodMartGroupDimensions, foodMartReversed) :: foodMartLists

/-- There is a run that leads to both views. -/
theorem exists_foodMartViews : ∃ events, Grown events foodMartViews := by
  obtain ⟨_, hgroup⟩ := exists_foodMartGroup
  obtain ⟨_, htimes⟩ := hgroup.exists_listed
    ⟨(foodMartDimension "Time" "[Time]").scope, .hierarchies⟩
    [[("HIERARCHY_NAME", "Calendar"), ("HIERARCHY_UNIQUE_NAME", "[Time]")],
      [("HIERARCHY_NAME", "Weekly"), ("HIERARCHY_UNIQUE_NAME", "[Time.Weekly]")]]
    foodMartTimes (by simp [foodMartLists, foodMartGroupDimensions]) rfl (by decide) rfl
  obtain ⟨_, hstores⟩ := htimes.exists_listed
    ⟨(foodMartDimension "Store" "[Store]").scope, .hierarchies⟩
    [[("HIERARCHY_NAME", "Store"), ("HIERARCHY_UNIQUE_NAME", "[Store]")]]
    foodMartStores (by simp [foodMartLists, foodMartGroupDimensions]; decide) rfl (by decide) rfl
  have hnew : ∀ items, (.derived ⟨foodMartCube.scope, .dimensions⟩, items) ∉
      foodMartViews.tail := by
    simp [foodMartViews, foodMartLists, TreeKey.hierarchies]
  have hdims : (.listed ⟨foodMartCube.scope, .dimensions⟩, foodMartDimensions) ∈
      foodMartViews.tail := by
    simp [foodMartViews, foodMartLists]
  have hlists : List.Forall₂ (fun (d : MetadataObject) list =>
      (.listed ⟨d.scope, .hierarchies⟩, list) ∈ foodMartViews.tail) foodMartDimensions.toList
        [foodMartTimes, foodMartStores] :=
    .cons (List.mem_cons_of_mem _ List.mem_cons_self) (.cons List.mem_cons_self .nil)
  have hjoin : Collection.join (⟨foodMartCube.scope, .dimensions⟩ : Collection).derivedLabel
      [foodMartTimes, foodMartStores] = .ok foodMartHierarchies := rfl
  obtain ⟨_, hview⟩ := Grown.exists_derived hstores hnew hdims hlists hjoin
  exact ⟨_, hview⟩

open DerivedHierarchies in
/-- The group lists the dimensions the other way round, and so its hierarchies. -/
theorem group_view_of_cube_view_foodMart :
    ∃ (events : List (Event TreeKey)) (view members : Listing MetadataObject),
      At events foodMart (.cube "FoodMart" "Public" "Sales") foodMartCube ∧
      Held events (.listed ⟨foodMartCube.scope, .measureGroups⟩) foodMartGroup ∧
      ((Config.run TreeKey.family events).cells
        (.derived ⟨foodMartCube.scope, .dimensions⟩)).state = .populated view ∧
      ((Config.run TreeKey.family events).cells
        (.listed ⟨foodMartGroup.scope, .groupDimensions⟩)).state = .populated members ∧
      view.items.toList = foodMartTimes.toList ++ foodMartStores.toList ∧
      (members.items.toList.flatMap fun d =>
        (hierarchiesOf (Config.run TreeKey.family events) d).toList) =
          foodMartStores.toList ++ foodMartTimes.toList ∧
      GroupView events ⟨foodMartGroup.scope, .groupDimensions⟩ members.items view.items := by
  obtain ⟨events, h⟩ := exists_foodMartViews
  have hc := Config.Coherent.run TreeKey.family events
  have hstate : ∀ {key items}, (key, items) ∈ foodMartViews → ∃ a,
      ((Config.run TreeKey.family events).cells key).state = .populated ⟨a, items⟩ := by
    intro key items hmem
    obtain ⟨a, hcell⟩ := h.held hmem
    exact ⟨a, congrArg Cell.state hcell⟩
  obtain ⟨_, hview⟩ := hstate (List.mem_cons_self)
  obtain ⟨_, hstores⟩ := hstate (List.mem_cons_of_mem _ List.mem_cons_self)
  obtain ⟨_, htimes⟩ :=
    hstate (List.mem_cons_of_mem _ (List.mem_cons_of_mem _ List.mem_cons_self))
  obtain ⟨a, hmembers⟩ := hstate
    (List.mem_cons_of_mem _ (List.mem_cons_of_mem _ (List.mem_cons_of_mem _ List.mem_cons_self)))
  obtain ⟨hcube, hheld⟩ := h.foodMart_at fun entry hentry => by
    simp [foodMartViews, hentry]
  refine ⟨events, _, ⟨a, foodMartReversed⟩, hcube, hheld, hview, hmembers, rfl, ?_,
    group_view_of_cube_view hcube hheld hview hmembers⟩
  simp [foodMartReversed, hierarchiesOf_eq hc hstores, hierarchiesOf_eq hc htimes]

end CubeClient
