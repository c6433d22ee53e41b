import CubeClient.Proofs.Deferred.Afterwards
import CubeClient.Proofs.Deferred.Rest
import CubeClient.Proofs.Deferred.Traces
import CubeClient.Proofs.Metadata.Sources

/-!
# The hierarchies of all dimensions

A cube and a measure group have a list that is made of other lists: the hierarchies of each of their
dimensions, in the order of the dimensions. A call that makes it reads the dimensions and then all
hierarchies side by side, so replies come in any order, and the first read that fails ends the call.
What the call comes to depends on nothing but what its reads have found (`result_of_finds`).

The list is made once and kept. A call that fails leaves nothing behind, but the lists that it has
found on the way are there for the next one, which has to ask for the others only.
-/

namespace CubeClient

open CubeClient.Deferred

/-- The hierarchies of one dimension. -/
def TreeKey.hierarchies (dimension : MetadataObject) : TreeKey :=
  .listed ⟨dimension.scope, .hierarchies⟩

theorem TreeKey.rank_le (key : TreeKey) : key.rank ≤ 2 := by
  cases key with
  | listed coll =>
    simp only [rank]
    split <;> omega
  | derived dims => exact Nat.le_refl 2

namespace DerivedHierarchies

variable {c d : Config TreeKey MetadataObject} {i a : Nat} {r : Reader TreeKey MetadataObject}
  {dims : Collection} {dimensions : Listing MetadataObject} {lists : List (Listing MetadataObject)}

/-- The reads of a call have found the dimensions and the hierarchies of each of them, and none has
failed. -/
structure Finds (c : Config TreeKey MetadataObject) (i : Nat) (dims : Collection)
    (dimensions : Listing MetadataObject) (lists : List (Listing MetadataObject)) : Prop where
  top : c.Returned i (.listed dims) (.ok dimensions)
  below : List.Forall₂ (fun dimension list =>
    c.Returned i (.hierarchies dimension) (.ok list)) dimensions.items.toList lists
  unfailed : ∀ {key : TreeKey} {e : ClientError}, ¬ c.Returned i key (.error e)

/-- The collections hold the dimensions and the hierarchies of each of them. -/
structure Holds (c : Config TreeKey MetadataObject) (dims : Collection)
    (dimensions : Listing MetadataObject) (lists : List (Listing MetadataObject)) : Prop where
  top : (c.cells (.listed dims)).state = .populated dimensions
  below : List.Forall₂ (fun dimension list =>
    (c.cells (.hierarchies dimension)).state = .populated list) dimensions.items.toList lists

/-- The dimensions of a collection and their hierarchies are held in one way only. -/
theorem Holds.unique {dimensions' : Listing MetadataObject}
    {lists' : List (Listing MetadataObject)} (h : Holds c dims dimensions lists)
    (h' : Holds c dims dimensions' lists') : dimensions = dimensions' ∧ lists = lists' := by
  obtain rfl := CellState.populated.inj (h.top.symm.trans h'.top)
  refine ⟨rfl, ?_⟩
  have hsame : Relator.RightUnique fun (dimension : MetadataObject) list =>
      (c.cells (.hierarchies dimension)).state = .populated list :=
    fun dimension list other hlist hother => CellState.populated.inj (hlist.symm.trans hother)
  exact hsame.forall₂ h.below h'.below

/-- A call for the hierarchies is over; with the attempt that was its own, if it made one. -/
def Ended (c : Config TreeKey MetadataObject) (i : Nat) (dims : Collection) (own : Option Nat)
    (result : ReadResult MetadataObject) : Prop :=
  ∃ r, c.readers[i]? = some r ∧ r.key = .derived dims ∧ r.phase = .finished own result

/-! ## What a call comes to -/

/-- What the reads of a call make of it: the error of one of them, or all lists joined. -/
inductive Outcome (c : Config TreeKey MetadataObject) (i : Nat) (dims : Collection) :
    Except ClientError (NamedList MetadataObject) → Prop
  | dimensions {e : ClientError} (h : c.Returned i (.listed dims) (.error e)) :
      Outcome c i dims (.error e)
  | hierarchies {dimensions : Listing MetadataObject} {dimension : MetadataObject} {e : ClientError}
      (hdims : c.Returned i (.listed dims) (.ok dimensions))
      (hmem : dimension ∈ dimensions.items.toList)
      (h : c.Returned i (.hierarchies dimension) (.error e)) : Outcome c i dims (.error e)
  | joined {dimensions : Listing MetadataObject} {lists : List (Listing MetadataObject)}
      (h : Finds c i dims dimensions lists) :
      Outcome c i dims (Collection.join dims.derivedLabel (lists.map (·.items)))

/-- If these are all reads that there were, and each of them has a list, none has failed. -/
theorem finds_of_joined {j : Nat} {others : List Nat} (hj : c.Issued i j (.listed dims))
    (hdims : c.result? j = some (.ok dimensions))
    (hothers : List.Forall₂ (c.Issued i) others (dimensions.items.toList.map TreeKey.hierarchies))
    (hlists : List.Forall₂ (fun k list => c.result? k = some (.ok list)) others lists)
    (hall : ∀ {k : Nat} {key : TreeKey}, c.Issued i k key → k ∈ [j] ++ others) :
    Finds c i dims dimensions lists where
  top := ⟨j, hj, hdims⟩
  below := List.forall₂_map_left_iff.mp (Config.forall₂_returned hothers hlists)
  unfailed := by
    rintro key e ⟨k, hk, hfailed⟩
    have hok : ∃ list, c.result? k = some (.ok list) := by
      rcases List.mem_cons.mp (hall hk) with rfl | hmem
      · exact ⟨dimensions, hdims⟩
      · obtain ⟨list, -, hlist⟩ := exists_of_forall₂ hlists hmem
        exact ⟨list, hlist⟩
    obtain ⟨list, hlist⟩ := hok
    rw [hfailed] at hlist
    cases hlist

theorem outcome_of_leads {children : List Nat}
    {outcome : Except ClientError (NamedList MetadataObject)}
    (h : c.Leads i a children dims.derivedProgram (.done outcome))
    (hall : ∀ {j : Nat} {key : TreeKey}, c.Issued i j key → j ∈ children) :
    Outcome c i dims outcome := by
  obtain ⟨j, others, result, rfl, hj, hresult, hrest⟩ := Config.Leads.of_read h
  cases result with
  | error e =>
    -- without the dimensions there is nothing else to read
    obtain ⟨-, hdone⟩ := Config.Leads.of_done hrest
    cases hdone
    exact .dimensions ⟨j, hj, hresult⟩
  | ok dimensions =>
    cases hrest with
    | head hsecond hlast =>
      cases hsecond with
      | joined hothers hlists =>
        obtain ⟨rfl, hdone⟩ := Config.Leads.of_done hlast
        cases hdone
        rw [List.append_nil] at hall
        exact .joined (finds_of_joined hj hresult hothers hlists hall)
      | @failed _ _ _ k e hothers hk hfailed =>
        obtain ⟨-, hdone⟩ := Config.Leads.of_done hlast
        cases hdone
        obtain ⟨key, hkey, hissued⟩ := exists_of_forall₂ hothers hk
        obtain ⟨dimension, hmem, rfl⟩ := List.mem_map.mp hkey
        exact .hierarchies ⟨j, hj, hresult⟩ hmem ⟨k, hissued, hfailed⟩

section Run

variable {events : List (Event TreeKey)}

theorem Finds.holds
    (h : Finds (Config.run TreeKey.family events) i dims dimensions lists) :
    Holds (Config.run TreeKey.family events) dims dimensions lists where
  top := (Config.Answered.run TreeKey.family events).populated_of_returned h.top
  below := h.below.imp fun _ _ hlist =>
    (Config.Answered.run TreeKey.family events).populated_of_returned hlist

/-- A read that has made an attempt answers the outcome of what it has found. -/
theorem outcome_of_ended {result : ReadResult MetadataObject}
    (h : Ended (Config.run TreeKey.family events) i dims (some a) result) :
    ∃ outcome, Outcome (Config.run TreeKey.family events) i dims outcome ∧
      result = outcome.map fun items => ⟨a, items⟩ := by
  obtain ⟨r, hr, hkey, hp⟩ := h
  obtain ⟨children, outcome, hleads, hresult, hall⟩ :=
    (Config.Traced.run TreeKey.family events).ended hr hp
  rw [hkey] at hleads
  exact ⟨outcome, outcome_of_leads hleads hall, hresult⟩

/-- Once all lists have been found, the call answers what they come to when they are joined. -/
theorem result_of_finds {result : ReadResult MetadataObject}
    (h : Ended (Config.run TreeKey.family events) i dims (some a) result)
    (hfinds : Finds (Config.run TreeKey.family events) i dims dimensions lists) :
    result = (Collection.join dims.derivedLabel (lists.map (·.items))).map
      fun items => ⟨a, items⟩ := by
  obtain ⟨outcome, houtcome, hresult⟩ := outcome_of_ended h
  cases houtcome with
  | dimensions hfailed => exact (hfinds.unfailed hfailed).elim
  | hierarchies _ _ hfailed => exact (hfinds.unfailed hfailed).elim
  | joined hfound =>
    obtain ⟨-, rfl⟩ := hfound.holds.unique hfinds.holds
    exact hresult

/-- A call answers a list exactly if all is found and no unique name comes twice. -/
theorem exists_ok_iff {result : ReadResult MetadataObject}
    (h : Ended (Config.run TreeKey.family events) i dims (some a) result) :
    (∃ listing, result = .ok listing) ↔ ∃ dimensions lists,
      Finds (Config.run TreeKey.family events) i dims dimensions lists ∧
        NamedList.Apart (lists.map (·.items)) := by
  constructor
  · rintro ⟨listing, rfl⟩
    obtain ⟨outcome, houtcome, hresult⟩ := outcome_of_ended h
    cases houtcome with
    | dimensions => cases hresult
    | hierarchies => cases hresult
    | joined hfinds =>
      refine ⟨_, _, hfinds, ?_⟩
      by_contra hmeet
      obtain ⟨name, hjoin, -⟩ := Collection.join_of_not_apart dims.derivedLabel hmeet
      rw [hjoin] at hresult
      cases hresult
  · rintro ⟨dimensions, lists, hfinds, hapart⟩
    obtain ⟨list, hjoin, -⟩ := Collection.join_of_apart dims.derivedLabel hapart
    rw [result_of_finds h hfinds, hjoin]
    exact ⟨_, rfl⟩

/-- The list that a call makes is the hierarchies of the dimensions one after the other. -/
theorem toList_of_made {listing : Listing MetadataObject}
    (h : Ended (Config.run TreeKey.family events) i dims (some a) (.ok listing)) :
    ∃ dimensions lists, Holds (Config.run TreeKey.family events) dims dimensions lists ∧
      listing.items.toList = lists.flatMap (·.items.toList) := by
  obtain ⟨dimensions, lists, hfinds, hapart⟩ := (exists_ok_iff h).mp ⟨listing, rfl⟩
  obtain ⟨list, hjoin, hlist⟩ := Collection.join_of_apart dims.derivedLabel hapart
  have hresult := result_of_finds h hfinds
  rw [hjoin] at hresult
  cases hresult
  exact ⟨dimensions, lists, hfinds.holds, by rw [hlist, List.flatMap_map]⟩

theorem populated_of_ended {own : Option Nat} {listing : Listing MetadataObject}
    (h : Ended (Config.run TreeKey.family events) i dims own (.ok listing)) :
    ((Config.run TreeKey.family events).cells (.derived dims)).state = .populated listing := by
  obtain ⟨r, hr, hkey, hp⟩ := h
  rw [← hkey]
  exact ((Config.Answered.run TreeKey.family events).listed hr hp).1

/-- The list that is kept is the hierarchies of the dimensions, whoever made it. -/
theorem toList_of_populated {listing : Listing MetadataObject}
    (hs : ((Config.run TreeKey.family events).cells (.derived dims)).state = .populated listing) :
    ∃ dimensions lists, Holds (Config.run TreeKey.family events) dims dimensions lists ∧
      listing.items.toList = lists.flatMap (·.items.toList) := by
  obtain ⟨i, r, hr, hkey, hp⟩ := (Config.Answered.run TreeKey.family events).built hs
  exact toList_of_made ⟨r, hr, hkey, hp⟩

end Run

/-! ## What is asked for again -/

/-- What has been sent between two times, of which a call that was begun in between has its part. -/
structure Requests (c d : Config TreeKey MetadataObject) (new : List Sent) : Prop where
  sent : d.sent = c.sent ++ new
  /-- What was sent for the call has been sent since. -/
  recent : ∀ {i : Nat} {s : Sent}, (∀ q, c.readers[i]? = some q → q.phase.own? = none) →
    s ∈ d.sent → d.SentFor i s → s ∈ new
  /-- Only collections that were not filled before are asked for. -/
  unfilled : ∀ {s : Sent}, s ∈ new → ∃ coll : Collection,
    d.attempts[s.attempt]? = some (.listed coll) ∧ s.message = coll.message ∧
      ∀ listing, (c.cells (.listed coll)).state ≠ .populated listing
  /-- Those that the call has read and that were empty before have been asked for again. -/
  again : ∀ {i : Nat} {coll : Collection} {result : ReadResult MetadataObject},
    (∀ q, c.readers[i]? = some q → q.phase.own? = none) → d.Returned i (.listed coll) result →
    (c.cells (.listed coll)).state = .empty → coll.check = .ok () →
    ∃ a, d.attempts[a]? = some (.listed coll) ∧ ⟨a, coll.message⟩ ∈ new

/-- An attempt on a listed collection that has ended has sent the collection's request. -/
theorem mem_sent_of_finished {events : List (Event TreeKey)} {coll : Collection}
    {result : ReadResult MetadataObject} (hcheck : coll.check = .ok ())
    (hr : (Config.run TreeKey.family events).readers[i]? = some r) (hkey : r.key = .listed coll)
    (hp : r.phase = .finished (some a) result) :
    (⟨a, coll.message⟩ : Sent) ∈ (Config.run TreeKey.family events).sent := by
  have hasks : TreeKey.family.Asks (.listed coll) coll.message fun _ => True :=
    asks_populate (fun row list => .all (coll.handler row list))
      (Collection.program_of_check hcheck)
  exact (Config.Asked.run hasks events).mem_sent hr hkey hp

/-- What has been sent between two configurations went out for lists that were not filled. -/
theorem exists_requests (events later : List (Event TreeKey)) :
    ∃ new, Requests (Config.run TreeKey.family events)
      (later.foldl (Config.step TreeKey.family) (Config.run TreeKey.family events)) new := by
  have hc := Config.Coherent.run TreeKey.family events
  have hnested := Config.Nested.run TreeKey.family events
  have hanswered := Config.Answered.run TreeKey.family events
  obtain ⟨new, hnew, hunfilled⟩ := hc.sent_since TreeKey.family later
  have hrun := Config.run_append TreeKey.family events later
  refine ⟨new, hnew, ?_, ?_, ?_⟩
  · rintro i s hfresh hs ⟨j, q, hq, hbehalf, hown⟩
    refine hc.mem_since hnew hs (hc.begun_of_fresh ⟨q, hq, rfl, hown⟩ ?_)
    rcases hbehalf with rfl | hbehalf
    · exact hfresh
    · intro q' hq'
      rw [hnested.getElem?_eq_none hc.linked hfresh hq hbehalf] at hq'
      cases hq'
  · intro s hs
    obtain ⟨key, hattempt, hempty⟩ := hunfilled s hs
    have hmem : s ∈ (Config.run TreeKey.family (events ++ later)).sent := by
      rw [hrun, hnew]
      exact List.mem_append_right _ hs
    obtain ⟨coll, rfl, -, hmessage⟩ := TreeKey.sent_cases hmem (hrun ▸ hattempt)
    exact ⟨coll, hattempt, hmessage, hempty⟩
  · -- the read is younger than the call, so what has answered it was begun since
    rintro i coll result hfresh ⟨j, ⟨s, hs, hhead, hkey⟩, hresult⟩ hempty hcheck
    have hnone := hnested.getElem?_eq_none hc.linked hfresh hs (List.mem_of_head? hhead)
    rw [Config.result?, hs, Option.bind_some] at hresult
    have hbuilt := Config.Answered.run TreeKey.family (events ++ later)
    have houtside : s.key ∉ s.within :=
      (TreeKey.kept (events ++ later)).key_notMem_within (fun _ _ => TreeKey.rank_lt_of_reads)
        (hrun ▸ hs)
    obtain ⟨b, k, q, other, hbegun, hq, hqkey, hqp⟩ := hc.attempted_since hanswered
      (hrun ▸ hbuilt) hempty hs hkey houtside hresult (fun q hq => by rw [hnone] at hq; cases hq)
    refine ⟨b, ?_, ?_⟩
    · exact (hc.foldl TreeKey.family later).guarded.runner.mpr ⟨k, q, hq, hqkey, by rw [hqp]; rfl⟩
    · rw [← hrun] at hq
      have hsent := mem_sent_of_finished hcheck hq hqkey hqp
      exact hc.mem_since hnew (hrun ▸ hsent) hbegun

/-! ## The answers -/

/-- What calls for the hierarchies of all dimensions answer. -/
structure Answers (c : Config TreeKey MetadataObject) (dims : Collection) : Prop where
  /-- A call that makes the list succeeds exactly if all lists are found and apart. -/
  succeeds : ∀ {i a : Nat} {result : ReadResult MetadataObject}, Ended c i dims (some a) result →
    ((∃ listing, result = .ok listing) ↔ ∃ dimensions lists,
      Finds c i dims dimensions lists ∧ NamedList.Apart (lists.map (·.items)))
  /-- What it has found is what the collections hold. -/
  found : ∀ {i : Nat} {dimensions : Listing MetadataObject} {lists : List (Listing MetadataObject)},
    Finds c i dims dimensions lists → Holds c dims dimensions lists
  /-- The list of any call that succeeds is one list behind the other. -/
  joined : ∀ {i : Nat} {own : Option Nat} {listing : Listing MetadataObject},
    Ended c i dims own (.ok listing) → ∃ dimensions lists, Holds c dims dimensions lists ∧
      listing.items.toList = lists.flatMap (·.items.toList)
  /-- If all lists are found but are not apart, the first name that comes again is refused. -/
  repeated : ∀ {i a : Nat} {result : ReadResult MetadataObject}
    {dimensions : Listing MetadataObject} {lists : List (Listing MetadataObject)},
    Ended c i dims (some a) result → Finds c i dims dimensions lists →
    ¬ NamedList.Apart (lists.map (·.items)) →
    ∃ name, result = .error (.duplicateName dims.derivedLabel name) ∧
      FirstRepeat (lists.flatMap (·.items.toList)) name
  /-- If not all are found, the error is that of one of the lists. -/
  failed : ∀ {i a : Nat} {result : ReadResult MetadataObject}, Ended c i dims (some a) result →
    (∀ dimensions lists, ¬ Finds c i dims dimensions lists) →
    ∃ key e, result = .error e ∧ c.Returned i key (.error e) ∧
      (key = .listed dims ∨ ∃ dimensions dimension, c.Returned i (.listed dims) (.ok dimensions) ∧
        dimension ∈ dimensions.items.toList ∧ key = .hierarchies dimension)
  /-- A call that does not make the list has it from the one that did. -/
  shared : ∀ {i : Nat} {result : ReadResult MetadataObject}, Ended c i dims none result →
    ∃ listing, result = .ok listing ∧ (c.cells (.derived dims)).state = .populated listing

/-- Every call answers as the lists say. -/
theorem answers (events : List (Event TreeKey)) (dims : Collection) :
    Answers (Config.run TreeKey.family events) dims where
  succeeds h := exists_ok_iff h
  found h := h.holds
  joined h := toList_of_populated (populated_of_ended h)
  repeated h hfinds hmeet := by
    obtain ⟨name, hjoin, hfirst⟩ := Collection.join_of_not_apart dims.derivedLabel hmeet
    rw [List.flatMap_map] at hfirst
    exact ⟨name, by rw [result_of_finds h hfinds, hjoin]; rfl, hfirst⟩
  failed h hnone := by
    obtain ⟨outcome, houtcome, rfl⟩ := outcome_of_ended h
    cases houtcome with
    | dimensions hfailed => exact ⟨_, _, rfl, hfailed, .inl rfl⟩
    | hierarchies hdims hmem hfailed =>
      exact ⟨_, _, rfl, hfailed, .inr ⟨_, _, hdims, hmem, rfl⟩⟩
    | joined hfinds => exact absurd hfinds (hnone _ _)
  shared {i result} h := by
    cases result with
    | ok listing => exact ⟨listing, rfl, populated_of_ended h⟩
    | error e =>
      obtain ⟨r, hr, -, hp⟩ := h
      have hwithin := (Config.Answered.run TreeKey.family events).refused hr hp
      exact absurd hwithin ((TreeKey.kept events).key_notMem_within
        (fun _ _ => TreeKey.rank_lt_of_reads) hr)

/-! ## The list is made once -/

/-- What holds later on, once the list has been made. -/
structure Cached (c d : Config TreeKey MetadataObject) (dims : Collection)
    (listing : Listing MetadataObject) : Prop where
  kept : (d.cells (.derived dims)).state = .populated listing
  /-- Calls that were not over then make no attempt, and nothing is sent for them. -/
  silent : ∀ {i : Nat} {r : Reader TreeKey MetadataObject}, d.readers[i]? = some r →
    r.key = .derived dims → (∀ q, c.readers[i]? = some q → q.phase.isOver = false) →
    r.phase.own? = none ∧ ∀ sent, ¬ d.SentFor i sent
  /-- If they answer, then with that very list. -/
  same : ∀ {i : Nat} {own : Option Nat} {result : ReadResult MetadataObject},
    Ended d i dims own result → (∀ q, c.readers[i]? = some q → q.phase.isOver = false) →
    result = .ok listing

/-- What is kept of the work of a call, and what is not. -/
structure Caches (c : Config TreeKey MetadataObject) (dims : Collection) : Prop where
  cached : ∀ {listing : Listing MetadataObject},
    (c.cells (.derived dims)).state = .populated listing → ∀ later : List (Event TreeKey),
      Cached c (later.foldl (Config.step TreeKey.family) c) dims listing
  /-- A call has its answer after two turns, unless it is given up. -/
  answered : ∀ {listing : Listing MetadataObject} {i : Nat} {r : Reader TreeKey MetadataObject},
    (c.cells (.derived dims)).state = .populated listing → c.readers[i]? = some r →
    r.key = .derived dims → r.phase.isOver = false →
    ∀ later : List (Event TreeKey), 2 ≤ turns i later →
      ∃ s, (later.foldl (Config.step TreeKey.family) c).readers[i]? = some s ∧
        (s.phase = .finished none (.ok listing) ∨ ∃ own, s.phase = .abandoned own)
  /-- An attempt that does not end with a list leaves nothing behind. -/
  uncached : ∀ {event : Event TreeKey} {i a : Nat}, c.Populates i (.derived dims) a →
    ¬ (c.step TreeKey.family event).Populates i (.derived dims) a →
    (∀ listing, (c.step TreeKey.family event).result? i ≠ some (.ok listing)) →
    (c.step TreeKey.family event).cells (.derived dims) = ⟨.empty, none⟩
  /-- The next call begins anew. -/
  retried : ∀ {i : Nat} {r : Reader TreeKey MetadataObject},
    (c.cells (.derived dims)).state = .empty → c.readers[i]? = some r → r.key = .derived dims →
    r.phase = .entering →
    (c.advance TreeKey.family i).readers[i]? =
      some { r with phase := .working c.attempts.length dims.derivedProgram }
  /-- But the lists that were found on the way are not asked for again. -/
  requests : ∀ later : List (Event TreeKey), ∃ new,
    Requests c (later.foldl (Config.step TreeKey.family) c) new

/-- Once there is a list, all later calls answer it and ask for nothing. -/
theorem cached {events : List (Event TreeKey)} {listing : Listing MetadataObject}
    (hs : ((Config.run TreeKey.family events).cells (.derived dims)).state = .populated listing)
    (later : List (Event TreeKey)) :
    Cached (Config.run TreeKey.family events)
      (later.foldl (Config.step TreeKey.family) (Config.run TreeKey.family events)) dims
      listing := by
  have hc := Config.Coherent.run TreeKey.family events
  have hrun := Config.run_append TreeKey.family events later
  have hkept : ((later.foldl (Config.step TreeKey.family) (Config.run TreeKey.family events)).cells
      (.derived dims)).state = .populated listing := Config.state_foldl hc hs later
  refine ⟨hkept, fun {i r} hr hkey hlive => ?_, ?_⟩
  · have hown := hc.own?_eq_none hs hr hkey hlive
    have hnested := Config.Nested.run TreeKey.family (events ++ later)
    rw [hrun] at hnested
    exact ⟨hown, hnested.not_sentFor hr hown⟩
  · rintro i own result ⟨r, hr, hkey, hp⟩ hlive
    have hown := hc.own?_eq_none hs hr hkey hlive
    rw [hp] at hown
    obtain rfl : own = none := hown
    have hanswers := answers (events ++ later) dims
    rw [hrun] at hanswers
    obtain ⟨other, rfl, hother⟩ := hanswers.shared ⟨r, hr, hkey, hp⟩
    rw [CellState.populated.inj (hkept.symm.trans hother)]

theorem caches (events : List (Event TreeKey)) (dims : Collection) :
    Caches (Config.run TreeKey.family events) dims where
  cached hs later := cached hs later
  answered hs hr hkey hlive later hturns :=
    (Config.Coherent.run TreeKey.family events).answered hs hr hkey hlive hturns
  uncached {event i a} hi hstop hnone := by
    have ht := Config.Transition.of_step TreeKey.family (Config.run TreeKey.family events) event
    rcases ht.stopped (.run TreeKey.family events) hi hstop with ⟨items, -, hlist⟩ | ⟨hcell, -⟩
    · exact absurd hlist (hnone _)
    · exact hcell
  retried hempty hr hkey hp := by
    have hc := Config.Coherent.run TreeKey.family events
    rw [(hc.advance_entering TreeKey.family (hkey ▸ hempty) hr hp).1, hkey]
    rfl
  requests := exists_requests events

/-! ## Every call comes to an end -/

/-- Calls come to an end, if replies come and nothing new does. -/
structure Settles (events : List (Event TreeKey)) (dims : Collection) : Prop where
  /-- When nothing can happen any more, calls that were not given up have answered. -/
  answered : Config.Resting TreeKey.family (Config.run TreeKey.family events) →
    ∀ {i : Nat} {r : Reader TreeKey MetadataObject},
      (Config.run TreeKey.family events).readers[i]? = some r → r.key = .derived dims →
      Event.giveUp i ∉ events →
      ∃ own result, Ended (Config.run TreeKey.family events) i dims own result
  /-- And things do not happen for ever. -/
  rests : ∀ configs : Nat → Config TreeKey MetadataObject,
    configs 0 = Config.run TreeKey.family events →
    ¬ ∀ n, Config.Goes TreeKey.family (configs n) (configs (n + 1))

/-- The hierarchies of all dimensions are called for from outside only. -/
theorem ancestors_eq_nil {events : List (Event TreeKey)}
    (hr : (Config.run TreeKey.family events).readers[i]? = some r) (hkey : r.key = .derived dims) :
    r.ancestors = [] := by
  cases ha : r.ancestors with
  | nil => rfl
  | cons j rest =>
    have hlinked := (Config.Coherent.run TreeKey.family events).linked
    have hlt : j < (Config.run TreeKey.family events).readers.length :=
      Nat.lt_trans (hlinked.older hr (ha ▸ List.mem_cons_self)) (List.getElem?_eq_some_iff.mp hr).1
    have hrank := (Config.Ranked.run TreeKey.rankedBy_rank events).descends hr ha
      (List.getElem?_eq_getElem hlt)
    rw [hkey] at hrank
    exact absurd hrank (Nat.not_lt.mpr (TreeKey.rank_le _))

theorem settles (events : List (Event TreeKey)) (dims : Collection) : Settles events dims where
  answered hrest {i r} hr hkey hkept := by
    obtain ⟨own, result, hp⟩ := hrest.answered TreeKey.rankedBy_rank hr (ancestors_eq_nil hr hkey)
      hkept
    exact ⟨own, result, r, hr, hkey, hp⟩
  rests configs hfirst hgoes := Config.not_goes_forever TreeKey.rankedBy_rank hfirst hgoes

end DerivedHierarchies

/-- The hierarchies of all dimensions of a collection, in any run. -/
theorem hierarchies_derived (events : List (Event TreeKey)) (dims : Collection) :
    DerivedHierarchies.Answers (Config.run TreeKey.family events) dims ∧
      DerivedHierarchies.Caches (Config.run TreeKey.family events) dims ∧
      DerivedHierarchies.Settles events dims :=
  ⟨DerivedHierarchies.answers events dims, DerivedHierarchies.caches events dims,
    DerivedHierarchies.settles events dims⟩

end CubeClient
