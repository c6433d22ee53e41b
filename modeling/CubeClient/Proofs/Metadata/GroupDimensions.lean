import CubeClient.Proofs.Metadata.Serving

/-!
# The dimensions of a measure group

A measure group lists the dimensions of its cube that its rows refer to. Its attempts read the list
of the cube and nothing else, so once that list is there the rows decide how they end (`GroupEnd`),
and all groups of a cube have its own objects.
-/

namespace CubeClient

open CubeClient.Deferred CubeClient.Xml

variable {c : Config TreeKey MetadataObject} {i a : Nat} {g : Collection}
  {dims : Listing MetadataObject} {events : List (Event TreeKey)}

/-! ## How an attempt ends -/

/-- A measure group could not look at the dimensions of its cube. -/
inductive Withheld (c : Config TreeKey MetadataObject) (i : Nat) (g : Collection) :
    ClientError → Prop
  | dropped : Withheld c i g g.cubeDropped
  | unread {e : ClientError} (h : c.Returned i (.listed g.cubeDimensions) (.error e)) :
      Withheld c i g e

/-- Against the dimensions of the cube, a row becomes what it refers to, unless these are
withheld. -/
theorem answer_of_resolveDimension {row : Element} {list : NamedList MetadataObject}
    {children : List Nat} {x : Except ClientError (Option MetadataObject)}
    (hanswered : Config.Answered c)
    (hdims : (c.cells (.listed g.cubeDimensions)).state = .populated dims)
    (h : c.Leads i a children (g.resolveDimension row list) (.done x)) :
    x = referringAnswer dims.items row list ∨ ∃ e, x = .error e ∧ Withheld c i g e := by
  unfold Collection.resolveDimension at h
  unfold referringAnswer givenName
  generalize Field.string row "DIMENSION_UNIQUE_NAME" = given at h ⊢
  cases given with
  | error e =>
    obtain ⟨-, hdone⟩ := h.of_done
    cases hdone
    exact .inl rfl
  | ok name =>
    by_cases htaken : list.containsUnique name = true
    · simp only [htaken, if_true] at h
      obtain ⟨-, hdone⟩ := h.of_done
      cases hdone
      exact .inl (by simp [Except.map, htaken])
    · simp only [htaken] at h
      obtain ⟨answer, hrest⟩ := Config.Leads.of_owned h
      cases answer with
      | false =>
        obtain ⟨-, hdone⟩ := Config.Leads.of_done hrest
        cases hdone
        exact .inr ⟨_, rfl, .dropped⟩
      | true =>
        obtain ⟨j, _, result, -, hj, hresult, hlast⟩ := Config.Leads.of_read hrest
        cases result with
        | error e =>
          obtain ⟨-, hdone⟩ := Config.Leads.of_done hlast
          cases hdone
          exact .inr ⟨e, rfl, .unread ⟨j, hj, hresult⟩⟩
        | ok listing =>
          obtain ⟨-, hdone⟩ := Config.Leads.of_done hlast
          cases hdone
          have hlisting := hanswered.populated_of_returned ⟨j, hj, hresult⟩
          obtain rfl := CellState.populated.inj (hdims.symm.trans hlisting)
          exact .inl (by simp [Except.map, htaken])

/-- How an attempt on the dimensions of a measure group ends, if those of its cube are listed. -/
inductive GroupEnd (c : Config TreeKey MetadataObject) (i a : Nat) (g : Collection)
    (dims : NamedList MetadataObject) : Except ClientError (NamedList MetadataObject) → Prop
  | refused {e : ClientError} (h : g.check = .error e) : GroupEnd c i a g dims (.error e)
  | unanswered {q : Nat} {reply : Reply} {e : ClientError}
      (hq : c.sent[q]? = some ⟨a, g.message⟩) (hreply : c.reply? q = some reply)
      (h : Client.readPayload reply = .error e) : GroupEnd c i a g dims (.error e)
  | withheld {e : ClientError} (h : Withheld c i g e) : GroupEnd c i a g dims (.error e)
  | filled {q : Nat} {reply : Reply} {root : Element}
      {outcome : Except ClientError (NamedList MetadataObject)}
      (hq : c.sent[q]? = some ⟨a, g.message⟩) (hreply : c.reply? q = some reply)
      (h : Client.readPayload reply = .ok root)
      (hfill : ReferringFill g.label dims (Client.rowsOf g.query.request root) outcome) :
      GroupEnd c i a g dims outcome

/-- Where the program of a group's dimensions ends is one of the ends of a group. -/
theorem groupEnd_of_leads {children : List Nat}
    {outcome : Except ClientError (NamedList MetadataObject)} (hanswered : Config.Answered c)
    (hkind : g.kind = .groupDimensions)
    (hdims : (c.cells (.listed g.cubeDimensions)).state = .populated dims)
    (h : c.Leads i a children (TreeKey.family.program (.listed g)) (.done outcome)) :
    GroupEnd c i a g dims.items outcome := by
  cases hcheck : g.check with
  | error e =>
    rw [Collection.program_of_refused hcheck] at h
    obtain ⟨-, hdone⟩ := Config.Leads.of_done h
    cases hdone
    exact .refused hcheck
  | ok _ =>
    rw [Collection.program_of_check hcheck] at h
    obtain ⟨q, reply, hq, hreply, ⟨e, herror, rfl⟩ | ⟨rows, hrows, hfill⟩⟩ := h.of_populate
    · exact .unanswered hq hreply (map_eq_error_iff.mp herror)
    · obtain ⟨root, hroot, rfl⟩ := map_eq_ok hrows
      have hhandler : g.handler = g.resolveDimension := by
        rw [Collection.handler, if_pos hkind]
      rw [hhandler] at hfill
      rcases Config.outcome_of_fillFrom (answer_of_resolveDimension hanswered hdims) hfill with
        rfl | ⟨e, rfl, he⟩
      · exact .filled hq hreply hroot (referringFill _ _ _)
      · exact .withheld he

/-- Rows of a measure group are merged. Whatever a run does, an attempt on the dimensions of a group
whose cube has listed its own ends as the rows of its reply say, or because the cube could not be
asked: two rows of one dimension become one entry, and the only dimension that is refused as a
duplicate is one that a row gives by its short name when a row before refers to it. -/
theorem group_rows_merged {r : Reader TreeKey MetadataObject}
    {result : ReadResult MetadataObject} (hkind : g.kind = .groupDimensions)
    (hdims : ((Config.run TreeKey.family events).cells (.listed g.cubeDimensions)).state =
      .populated dims)
    (hr : (Config.run TreeKey.family events).readers[i]? = some r) (hkey : r.key = .listed g)
    (hp : r.phase = .finished (some a) result) :
    ∃ outcome, GroupEnd (Config.run TreeKey.family events) i a g dims.items outcome ∧
      result = outcome.map fun items => ⟨a, items⟩ := by
  obtain ⟨children, outcome, hleads, hresult, -⟩ :=
    (Config.Traced.run TreeKey.family events).ended hr hp
  rw [hkey] at hleads
  exact ⟨outcome,
    groupEnd_of_leads (Config.Answered.run TreeKey.family events) hkind hdims hleads, hresult⟩

/-- A group whose rows name a dimension twice, and one by its short name first. -/
theorem group_rows_merged_foodMart :
    ∃ (events : List (Event TreeKey)) (i a : Nat) (r : Reader TreeKey MetadataObject)
      (dims : Listing MetadataObject) (outcome : Except ClientError (NamedList MetadataObject)),
      foodMartGroupDimensions.kind = .groupDimensions ∧
      ((Config.run TreeKey.family events).cells
        (.listed foodMartGroupDimensions.cubeDimensions)).state = .populated dims ∧
      (Config.run TreeKey.family events).readers[i]? = some r ∧
      r.key = .listed foodMartGroupDimensions ∧
      r.phase = .finished (some a) (.ok ⟨a, foodMartReversed⟩) ∧
      GroupEnd (Config.run TreeKey.family events) i a foodMartGroupDimensions dims.items outcome ∧
      outcome = .ok foodMartReversed := by
  obtain ⟨events, h⟩ := exists_foodMartGroup
  obtain ⟨b, hgroup⟩ := h.held List.mem_cons_self
  obtain ⟨_, hcube⟩ := h.held (List.mem_cons_of_mem _ (List.mem_cons_of_mem _ List.mem_cons_self))
  have hdims : ((Config.run TreeKey.family events).cells
      (.listed foodMartGroupDimensions.cubeDimensions)).state = _ := congrArg Cell.state hcube
  obtain ⟨i, r, hr, hkey, hp⟩ :=
    (Config.Answered.run TreeKey.family events).built (congrArg Cell.state hgroup)
  obtain ⟨outcome, hend, hresult⟩ := group_rows_merged rfl hdims hr hkey hp
  refine ⟨events, i, b, r, _, outcome, rfl, hdims, hr, hkey, hp, hend, ?_⟩
  obtain ⟨items, rfl, hitems⟩ := map_eq_ok hresult.symm
  cases hitems
  rfl

/-- All rows of a group carry a name, and still a dimension is refused as a duplicate: one row names
it by its unique name and the next by its short name. -/
theorem group_row_refused :
    ∃ (events : List (Event TreeKey)) (i a q : Nat) (r : Reader TreeKey MetadataObject)
      (dims : Listing MetadataObject) (reply : Reply) (root : Element),
      ((Config.run TreeKey.family events).cells
        (.listed foodMartGroupDimensions.cubeDimensions)).state = .populated dims ∧
      (Config.run TreeKey.family events).readers[i]? = some r ∧
      r.key = .listed foodMartGroupDimensions ∧
      (Config.run TreeKey.family events).sent[q]? = some ⟨a, foodMartGroupDimensions.message⟩ ∧
      (Config.run TreeKey.family events).reply? q = some reply ∧
      Client.readPayload reply = .ok root ∧
      (∀ row ∈ Client.rowsOf foodMartGroupDimensions.query.request root,
        ∃ name, givenName row = .ok name) ∧
      r.phase = .finished (some a)
        (.error (.duplicateName foodMartGroupDimensions.label "[Time]")) := by
  obtain ⟨events, h⟩ := exists_foodMart
  have hcube : (.listed foodMartGroupDimensions.cubeDimensions, foodMartDimensions) ∈
    foodMartLists := List.mem_cons_of_mem _ List.mem_cons_self
  have hnew : ∀ items, (.listed foodMartGroupDimensions, items) ∉ foodMartLists := by
    simp [foodMartLists, foodMartGroupDimensions]
  obtain ⟨b, hcell⟩ := h.held hcube
  have hplain : Envelope.PlainRows (referringRows ["[Time]", "Time"]) := by
    decide
  have hfill : fill foodMartGroupDimensions.label (referringAnswer foodMartDimensions)
      ((referringRows ["[Time]", "Time"]).map Envelope.rowElement) =
        .error (.duplicateName foodMartGroupDimensions.label "[Time]") := rfl
  have hcomes : ComesTo (Config.run TreeKey.family events).cells
      (Config.run TreeKey.family events).owned [rowsReply (referringRows ["[Time]", "Time"])]
      (fillFrom foodMartGroupDimensions.label foodMartGroupDimensions.handler
        ((referringRows ["[Time]", "Time"]).map Envelope.rowElement) .empty) _ :=
    Collection.comesTo_referring rfl (h.owned _) hcell _
  obtain ⟨later, i, a, q, hr, hq, hreply, hothers⟩ :=
    Collection.exists_answered rfl hplain (h.unread hnew) hcomes
  obtain ⟨root, hroot, hrows⟩ := rowsOf_rowsReply hplain
  refine ⟨events ++ later, i, a, q, _, ⟨b, foodMartDimensions⟩, _, root, ?_, hr, rfl, hq, hreply,
    hroot, ?_, by rw [hfill]; rfl⟩
  · rw [hothers _ (by simp [foodMartGroupDimensions, Collection.cubeDimensions]), hcell]
  · intro row hrow
    rw [hrows] at hrow
    rcases List.mem_cons.mp hrow with rfl | hrow
    · exact ⟨"[Time]", rfl⟩
    · obtain rfl := List.mem_singleton.mp hrow
      exact ⟨"Time", rfl⟩

/-! ## What groups share -/

/-- A collection is filled at most once. -/
structure FilledOnce (c : Config TreeKey MetadataObject) (key : TreeKey) : Prop where
  single : ∀ {i j a b : Nat} {r s : Reader TreeKey MetadataObject}
    {listing other : Listing MetadataObject}, c.readers[i]? = some r → r.key = key →
    r.phase = .finished (some a) (.ok listing) → c.readers[j]? = some s → s.key = key →
    s.phase = .finished (some b) (.ok other) → i = j ∧ a = b
  /-- Once it is filled, no attempt on it is begun. -/
  closed : ∀ {listing : Listing MetadataObject}, (c.cells key).state = .populated listing →
    ∀ later : List (Event TreeKey), ∃ new,
      (later.foldl (Config.step TreeKey.family) c).attempts = c.attempts ++ new ∧ key ∉ new

/-- No collection is filled twice in a run. -/
theorem filledOnce (events : List (Event TreeKey)) (key : TreeKey) :
    FilledOnce (Config.run TreeKey.family events) key where
  single {i j a b r s listing other} hr hkey hp hs hskey hsp := by
    have hanswered := Config.Answered.run TreeKey.family events
    have hguarded := (Config.Coherent.run TreeKey.family events).guarded
    obtain ⟨hlist, hattempt⟩ := hanswered.listed hr hp
    obtain ⟨hother, hattempt'⟩ := hanswered.listed hs hsp
    rw [hkey] at hlist
    rw [hskey] at hother
    obtain rfl := CellState.populated.inj (hlist.symm.trans hother)
    obtain rfl := (hattempt a rfl).symm.trans (hattempt' b rfl)
    exact ⟨hguarded.single ⟨r, hr, hkey, by rw [hp]; rfl⟩ ⟨s, hs, hskey, by rw [hsp]; rfl⟩, rfl⟩
  closed hs later := ((Config.Coherent.run TreeKey.family events).settled hs later).attempts

/-- The dimensions of a measure group of a cube. -/
structure SharesDimensions (c : Config TreeKey MetadataObject) (p o : MetadataObject) :
    Prop where
  /-- They are those of the cube that the rows of its reply refer to. -/
  content : ∀ {dims listing : Listing MetadataObject},
    (c.cells (.listed ⟨p.scope, .dimensions⟩)).state = .populated dims →
    (c.cells (.listed ⟨o.scope, .groupDimensions⟩)).state = .populated listing →
    ∃ q reply root, c.sent[q]? = some ⟨listing.attempt,
        (⟨o.scope, .groupDimensions⟩ : Collection).message⟩ ∧
      c.reply? q = some reply ∧ Client.readPayload reply = .ok root ∧
      Referred dims.items (Client.rowsOf .measureGroupDimensions root) listing.items
  /-- The only collection that is read for them is that of the cube. -/
  reads : ∀ {i j : Nat} {r : Reader TreeKey MetadataObject} {key : TreeKey},
    c.readers[i]? = some r → r.key = .listed ⟨o.scope, .groupDimensions⟩ → c.Issued i j key →
    key = .listed ⟨p.scope, .dimensions⟩

/-- The cube whose dimensions a group refers to is the one that lists the group. -/
theorem At.cubeDimensions_of_held {connection : Connection} {catalog schema cube : String}
    {p o : MetadataObject} (hp : At events connection (.cube catalog schema cube) p)
    (ho : Held events (.listed ⟨p.scope, .measureGroups⟩) o) :
    (⟨o.scope, .groupDimensions⟩ : Collection).cubeDimensions = ⟨p.scope, .dimensions⟩ := by
  obtain ⟨row, hbuilt⟩ := ho.built (by simp)
  rw [Collection.cubeDimensions, hp.cubeOfGroup_scope hbuilt]

/-- The groups of a cube have the cube's own dimensions, those that their rows refer to, in the
order in which the rows first do; and however many groups are read, and the cube besides, the list
of the cube is filled at most once. -/
theorem group_dimensions_shared (events : List (Event TreeKey)) (connection : Connection)
    {catalog schema cube : String} {p : MetadataObject}
    (hp : At events connection (.cube catalog schema cube) p) :
    FilledOnce (Config.run TreeKey.family events) (.listed ⟨p.scope, .dimensions⟩) ∧
      ∀ o, Held events (.listed ⟨p.scope, .measureGroups⟩) o →
        SharesDimensions (Config.run TreeKey.family events) p o := by
  refine ⟨filledOnce events _, fun o ho => ?_⟩
  have hcube := hp.cubeDimensions_of_held ho
  have hanswered := Config.Answered.run TreeKey.family events
  constructor
  · intro dims listing hdims hs
    obtain ⟨i, r, hr, hkey, hfinished⟩ := hanswered.built hs
    obtain ⟨children, outcome, hleads, hresult, -⟩ :=
      (Config.Traced.run TreeKey.family events).ended hr hfinished
    rw [hkey] at hleads
    obtain ⟨items, rfl, hlisting⟩ := map_eq_ok hresult.symm
    cases groupEnd_of_leads hanswered rfl (hcube ▸ hdims) hleads with
    | @filled q reply root _ hq hreply hroot hfill =>
      refine ⟨q, reply, root, hq, hreply, hroot, ?_⟩
      rw [← hlisting]
      exact hfill.listed rfl
  · intro i j r key hr hkey hissued
    have hreads := (TreeKey.kept events).reads_of_issued
      (Config.Nested.run TreeKey.family events) hr hissued
    rw [hkey] at hreads
    obtain ⟨-, rfl⟩ := hreads
    rw [hcube]

/-- The group of the cube that lists its dimensions the other way round. -/
theorem group_dimensions_shared_foodMart :
    ∃ (events : List (Event TreeKey)) (dims listing : Listing MetadataObject),
      At events foodMart (.cube "FoodMart" "Public" "Sales") foodMartCube ∧
      Held events (.listed ⟨foodMartCube.scope, .measureGroups⟩) foodMartGroup ∧
      ((Config.run TreeKey.family events).cells
        (.listed ⟨foodMartCube.scope, .dimensions⟩)).state = .populated dims ∧
      ((Config.run TreeKey.family events).cells
        (.listed ⟨foodMartGroup.scope, .groupDimensions⟩)).state = .populated listing ∧
      dims.items = foodMartDimensions ∧ listing.items = foodMartReversed ∧
      FilledOnce (Config.run TreeKey.family events) (.listed ⟨foodMartCube.scope, .dimensions⟩) ∧
      SharesDimensions (Config.run TreeKey.family events) foodMartCube foodMartGroup := by
  obtain ⟨events, h⟩ := exists_foodMartGroup
  obtain ⟨a, hgroup⟩ := h.held List.mem_cons_self
  obtain ⟨b, hdims⟩ := h.held (List.mem_cons_of_mem _ (List.mem_cons_of_mem _ List.mem_cons_self))
  obtain ⟨hcube, hheld⟩ := h.foodMart_at fun _ => List.mem_cons_of_mem _
  obtain ⟨honce, hshares⟩ := group_dimensions_shared events foodMart hcube
  exact ⟨events, ⟨b, foodMartDimensions⟩, ⟨a, foodMartReversed⟩, hcube, hheld,
    congrArg Cell.state hdims, congrArg Cell.state hgroup, rfl, rfl, honce,
    hshares foodMartGroup hheld⟩

end CubeClient
