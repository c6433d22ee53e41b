import CubeClient.Proofs.Deferred.Afterwards
import CubeClient.Proofs.Deferred.Solo
import CubeClient.Proofs.Deferred.Traces

/-!
# Populations that are carried out

Nothing but missing replies and lists can hold a population up. If every collection that a program
reads is filled, the replies of a server lead it to an end (`ComesTo`), and then there is a run in
which they do: a read of an empty collection can be carried out from wherever a run has come to, and
leaves the other collections as they are (`exists_carriedOut`).
-/

namespace CubeClient.Deferred

variable {κ ι α β : Type} [Named ι] {cells : κ → Cell ι} {owned : κ → Bool}
  {given : List Reply}

/-- What a program comes to with the replies that are given, if the collections that it reads are
filled. -/
inductive ComesTo (cells : κ → Cell ι) (owned : κ → Bool) (given : List Reply) :
    Program κ ι α → α → Prop
  | done {x : α} : ComesTo cells owned given (.done x) x
  | send {message : Message} {next : Reply → Program κ ι α} {x : α} {reply : Reply}
      (hreply : reply ∈ given) (h : ComesTo cells owned given (next reply) x) :
      ComesTo cells owned given (.send message next) x
  | owned {key : κ} {next : Bool → Program κ ι α} {x : α}
      (h : ComesTo cells owned given (next (owned key)) x) :
      ComesTo cells owned given (.owned key next) x
  | read {key : κ} {next : ReadResult ι → Program κ ι α} {x : α} {listing : Listing ι}
      (hcell : cells key = ⟨.populated listing, some listing⟩)
      (h : ComesTo cells owned given (next (.ok listing)) x) :
      ComesTo cells owned given (.read key next) x
  | readAll {keys : List κ} {next : Except ClientError (List (Listing ι)) → Program κ ι α} {x : α}
      {listings : List (Listing ι)}
      (hcells : List.Forall₂ (fun key listing => cells key = ⟨.populated listing, some listing⟩)
        keys listings)
      (h : ComesTo cells owned given (next (.ok listings)) x) :
      ComesTo cells owned given (.readAll keys next) x

namespace ComesTo

theorem bind {program : Program κ ι α} {f : α → Program κ ι β} {x : α} {y : β}
    (h : ComesTo cells owned given program x) (hf : ComesTo cells owned given (f x) y) :
    ComesTo cells owned given (program.bind f) y := by
  induction h with
  | done => exact hf
  | send hreply _ ih => exact .send hreply (ih hf)
  | owned _ ih => exact .owned (ih hf)
  | read hcell _ ih => exact .read hcell (ih hf)
  | readAll hcells _ ih => exact .readAll hcells (ih hf)

/-- Collections that are not filled do not matter. -/
theorem mono {program : Program κ ι α} {x : α} {cells' : κ → Cell ι}
    (h : ComesTo cells owned given program x)
    (hcells : ∀ key listing, cells key = ⟨.populated listing, some listing⟩ →
      cells' key = ⟨.populated listing, some listing⟩) : ComesTo cells' owned given program x := by
  induction h with
  | done => exact .done
  | send hreply _ ih => exact .send hreply ih
  | owned _ ih => exact .owned ih
  | read hcell _ ih => exact .read (hcells _ _ hcell) ih
  | readAll hall _ ih => exact .readAll (hall.imp hcells) ih

end ComesTo

namespace Config

variable [DecidableEq κ] {family : Family κ ι} {c d e : Config κ ι} {i j a : Nat} {key : κ}
  {r s : Reader κ ι}

/-! ## Steps that leave the collections alone -/

/-- Replies are there to messages that have been sent only. -/
def Timely (c : Config κ ι) : Prop :=
  ∀ entry ∈ c.replies, entry.1 < c.sent.length

/-- Nothing is delivered before it is asked for. -/
theorem Timely.step (h : Timely c) (family : Family κ ι) (event : Event κ) :
    Timely (c.step family event) := by
  have hsent := sent_foldl family c [event]
  replace hsent : c.sent.length ≤ (c.step family event).sent.length := hsent.length_le
  intro entry hentry
  rcases mem_replies_step hentry with hold | rfl
  · exact Nat.lt_of_lt_of_le (h entry hold) hsent
  · by_cases hdue : entry.1 < c.sent.length
    · exact Nat.lt_of_lt_of_le hdue hsent
    · simp only [Config.step, deliver, hdue, false_and, if_false] at hentry
      exact absurd (h entry hentry) hdue

theorem Timely.foldl (h : Timely c) (family : Family κ ι) (later : List (Event κ)) :
    Timely (later.foldl (Config.step family) c) := by
  induction later generalizing c with
  | nil => exact h
  | cons event later ih => exact ih (h.step family event)

theorem Timely.run (family : Family κ ι) (events : List (Event κ)) :
    Timely (Config.run family events) :=
  Timely.foldl (fun _ hentry => (List.not_mem_nil hentry).elim) family events

/-- A run goes on from one configuration to another with the replies that are given, and no
collection changes. -/
structure Passes (family : Family κ ι) (given : List Reply) (c d : Config κ ι) : Prop where
  reached : ∃ more : List (Event κ), more.foldl (step family) c = d
  cells : d.cells = c.cells
  owned : d.owned = c.owned
  heard : ∀ entry ∈ d.replies, entry ∈ c.replies ∨ c.sent.length ≤ entry.1 ∧ entry.2 ∈ given

namespace Passes

theorem refl : Passes family given c c where
  reached := ⟨[], rfl⟩
  cells := rfl
  owned := rfl
  heard _ h := .inl h

theorem sent_le (h : Passes family given c d) : c.sent.length ≤ d.sent.length := by
  obtain ⟨more, rfl⟩ := h.reached
  exact (sent_foldl family c more).length_le

/-- Passing on twice is passing on, since what was heard later was sent later too. -/
theorem trans (h : Passes family given c d) (h' : Passes family given d e) :
    Passes family given c e where
  reached := by
    obtain ⟨more, rfl⟩ := h.reached
    obtain ⟨others, rfl⟩ := h'.reached
    exact ⟨more ++ others, List.foldl_append⟩
  cells := h'.cells.trans h.cells
  owned := h'.owned.trans h.owned
  heard entry hentry := by
    rcases h'.heard entry hentry with hold | ⟨hlate, hgiven⟩
    · exact h.heard entry hold
    · exact .inr ⟨Nat.le_trans h.sent_le hlate, hgiven⟩

theorem timely (h : Passes family given c d) (hc : Timely c) : Timely d := by
  obtain ⟨more, rfl⟩ := h.reached
  exact hc.foldl family more

end Passes

/-- A reader that fills its collection takes its next step. -/
theorem Shift.passes {phase : Phase κ ι} {new : List (Reader κ ι)} {messages : List Sent}
    (h : Shift family c i r phase new messages) (hr : c.readers[i]? = some r)
    (hactive : r.phase.active? ≠ none) :
    Passes family given c (c.shifted i phase new messages) := by
  refine ⟨⟨[.advance i], ?_⟩, rfl, rfl, fun _ h => .inl h⟩
  show c.advance family i = _
  cases h with
  | hit hp => rw [hp] at hactive; exact absurd rfl hactive
  | refuse hp => rw [hp] at hactive; exact absurd rfl hactive
  | wait hp => rw [hp] at hactive; exact absurd rfl hactive
  | wake hp => rw [hp] at hactive; exact absurd rfl hactive
  | send hp => simp only [advance, hr, hp, work, shifted, List.append_nil]
  | owned hp => simp only [advance, hr, hp, work, shifted_nil]
  | read hp => simp only [advance, hr, hp, work, shifted, List.append_nil, sent_setPhase]
  | readAll hp => simp only [advance, hr, hp, work, shifted, List.append_nil, sent_setPhase]
  | reply hp hreply => simp only [advance, hr, hp, hreply, shifted_nil]
  | result hp hresult => simp only [advance, hr, hp, hresult, shifted_nil]
  | joined hp hjoined => simp only [advance, hr, hp, hjoined, shifted_nil]

/-- A message that is to be sent is sent, and one of the given replies arrives. -/
theorem passes_deliver (family : Family κ ι) (hc : Timely c) (hr : c.readers[i]? = some r)
    {next : Reply → Population κ ι} {message : Message}
    (hp : r.phase = .working a (.send message next)) {reply : Reply} (hgiven : reply ∈ given) :
    ∃ d, Passes family given c d ∧
      d.readers[i]? = some { r with phase := .working a (next reply) } := by
  have hsend : Shift family c i r _ [] [⟨a, message⟩] := .send hp
  -- The message goes out, its reply comes in next, and then the reader reads it.
  generalize hasked : c.shifted i (.awaitingReply a c.sent.length next) [] [⟨a, message⟩] = asked
  have hask : Passes family given c asked :=
    hasked ▸ hsend.passes hr (by rw [hp]; exact Option.some_ne_none a)
  have hreplies : asked.replies = c.replies := hasked ▸ rfl
  have hwaits : asked.readers[i]? = some { r with phase := .awaitingReply a c.sent.length next } :=
    hasked ▸ getElem?_shifted_self hr _ _ _
  have hq : c.sent.length < asked.sent.length := by
    rw [← hasked]
    simp [shifted]
  have hnone : asked.reply? c.sent.length = none := by
    rw [← hasked]
    exact reply?_eq_none_of_forall hc (Nat.le_refl _)
  obtain ⟨hdeliver, hreply⟩ := reply?_deliver reply hq hnone
  have hheard : Passes family given c (asked.deliver c.sent.length reply) := by
    obtain ⟨more, hmore⟩ := hask.reached
    refine ⟨⟨more ++ [.deliver c.sent.length reply], ?_⟩, ?_, ?_, fun entry hentry => ?_⟩
    · rw [List.foldl_append, hmore]
      rfl
    · rw [hdeliver]
      exact hask.cells
    · rw [hdeliver]
      exact hask.owned
    · rw [hdeliver, hreplies] at hentry
      rcases List.mem_append.mp hentry with hold | hnew
      · exact .inl hold
      · obtain rfl := List.mem_singleton.mp hnew
        exact .inr ⟨Nat.le_refl _, hgiven⟩
  have hwaits' : (asked.deliver c.sent.length reply).readers[i]? =
      some { r with phase := .awaitingReply a c.sent.length next } := by
    rw [hdeliver]
    exact hwaits
  have hgoes : Shift family (asked.deliver c.sent.length reply) i
    { r with phase := .awaitingReply a c.sent.length next } _ [] [] := .reply rfl hreply
  exact ⟨_, hheard.trans (hgoes.passes hwaits' (Option.some_ne_none a)),
    getElem?_shifted_self hwaits' _ _ _⟩

/-! ## Reads of filled collections -/

/-- A read of a filled collection that has answered, or is about to look at the collection. -/
def Hits (c : Config κ ι) (j : Nat) (listing : Listing ι) : Prop :=
  ∃ s, c.readers[j]? = some s ∧ c.cells s.key = ⟨.populated listing, some listing⟩ ∧
    (s.phase = .entering ∨ s.phase = .finished none (.ok listing))

omit [DecidableEq κ] in
theorem Hits.setPhase {k : Nat} {listing other : Listing ι} (h : Hits c k other)
    (hj : Hits c j listing) : Hits (c.setPhase j (.finished none (.ok listing))) k other := by
  obtain ⟨s, hs, hcell, hp⟩ := h
  by_cases hkj : k = j
  · subst hkj
    obtain ⟨s', hs', hcell', -⟩ := hj
    obtain rfl := Option.some.inj (hs.symm.trans hs')
    obtain rfl : listing = other :=
      CellState.populated.inj (congrArg Cell.state (hcell'.symm.trans hcell))
    exact ⟨_, getElem?_setPhase_self hs _, hcell, .inr rfl⟩
  · exact ⟨s, by rw [getElem?_setPhase_ne (Ne.symm hkj), hs], hcell, hp⟩

/-- A read of a filled collection answers in one step and disturbs no other reader. -/
theorem Hits.passes {listing : Listing ι} (h : Hits c j listing) (family : Family κ ι) :
    ∃ d, Passes family given c d ∧ d.result? j = some (.ok listing) ∧
      (∀ k, k ≠ j → d.readers[k]? = c.readers[k]?) ∧
      ∀ k other, Hits c k other → Hits d k other := by
  obtain ⟨s, hs, hcell, hp | hp⟩ := h
  · refine ⟨c.setPhase j (.finished none (.ok listing)),
      ⟨⟨[.advance j], ?_⟩, rfl, rfl, fun _ h => .inl h⟩, ?_, ?_, ?_⟩
    · show c.advance family j = _
      simp only [advance, hs, hp, enter, hcell]
    · rw [result?, getElem?_setPhase_self hs]
      rfl
    · intro k hk
      exact getElem?_setPhase_ne (Ne.symm hk) _
    · intro k other hk
      exact hk.setPhase ⟨s, hs, hcell, .inl hp⟩
  · refine ⟨c, .refl, ?_, fun _ _ => rfl, fun _ _ => id⟩
    rw [result?, hs, Option.bind_some, hp]
    rfl

omit [DecidableEq κ] in
/-- Reads side by side that have all answered lists have answered them together. -/
theorem joined?_of_forall₂ {children : List Nat} {listings : List (Listing ι)}
    (h : List.Forall₂ (fun j listing => c.result? j = some (.ok listing)) children listings) :
    c.joined? children = some (.ok listings) := by
  unfold joined?
  split
  · rename_i e hfirst
    obtain ⟨j, hj, hfailed⟩ := List.exists_of_findSome?_eq_some hfirst
    obtain ⟨listing, -, hlisting⟩ := exists_of_forall₂ h hj
    rw [hlisting] at hfailed
    cases hfailed
  · rw [mapM_of_forall₂ (h.imp fun j listing hlisting => by rw [hlisting])]
    rfl

/-- Reads of filled collections side by side answer. -/
theorem passes_hits {children : List Nat} {listings : List (Listing ι)}
    (h : List.Forall₂ (Hits c) children listings) (family : Family κ ι) :
    ∃ d, Passes family given c d ∧ (∀ k, k ∉ children → d.readers[k]? = c.readers[k]?) ∧
      List.Forall₂ (fun j listing => d.result? j = some (.ok listing)) children listings := by
  induction children generalizing c listings with
  | nil =>
    cases h
    exact ⟨c, .refl, fun _ _ => rfl, .nil⟩
  | cons j children ih =>
    cases h with
    | cons hj hrest =>
      obtain ⟨d, hd, hresult, hother, hhits⟩ := hj.passes family
      obtain ⟨e, he, hothers, hresults⟩ := ih (hrest.imp hhits)
      refine ⟨e, hd.trans he, fun k hk => ?_, .cons ?_ hresults⟩
      · rw [List.mem_cons, not_or] at hk
        rw [hothers k hk.2, hother k hk.1]
      · obtain ⟨more, rfl⟩ := he.reached
        exact foldl_induction (P := fun e => e.result? j = some (.ok _))
          (fun _ _ h ht => ht.result?_eq_some h) more hresult

omit [DecidableEq κ] in
/-- The reads that a reader has just issued. -/
theorem hits_childReaders {keys : List κ} {listings : List (Listing ι)} (i : Nat)
    (r : Reader κ ι) (phase : Phase κ ι)
    (h : List.Forall₂ (fun key listing => c.cells key = ⟨.populated listing, some listing⟩)
      keys listings) :
    List.Forall₂ (Hits (c.shifted i phase (childReaders i r keys) []))
      ((List.range keys.length).map (c.readers.length + ·)) listings := by
  have hnew : List.Forall₂ (fun j key =>
      (c.shifted i phase (childReaders i r keys) []).readers[j]? =
        some ⟨key, i :: r.ancestors, r.key :: r.within, .entering⟩)
      ((List.range keys.length).map (c.readers.length + ·)) keys := by
    refine forall₂_childReaders fun m s hs => ?_
    rw [getElem?_shifted_new (Nat.le_add_right _ _), Nat.add_sub_cancel_left, hs]
  exact forall₂_of_forall₂ (fun key j listing hj hcell => ⟨_, hj, hcell, .inl rfl⟩) hnew.flip h

/-- A population waits for reads of filled collections, and they answer. -/
theorem passes_reads {keys : List κ} {listings : List (Listing ι)} {phase : Phase κ ι}
    (h : Shift family c i r phase (childReaders i r keys) []) (hr : c.readers[i]? = some r)
    (hactive : r.phase.active? ≠ none)
    (hcells : List.Forall₂ (fun key listing => c.cells key = ⟨.populated listing, some listing⟩)
      keys listings) :
    ∃ d, Passes family given c d ∧ d.readers[i]? = some { r with phase := phase } ∧
      List.Forall₂ (fun j listing => d.result? j = some (.ok listing))
        ((List.range keys.length).map (c.readers.length + ·)) listings := by
  obtain ⟨d, hd, hother, hresults⟩ :=
    passes_hits (hits_childReaders i r phase hcells) family
  refine ⟨d, (h.passes hr hactive).trans hd, ?_, hresults⟩
  have hi : i ∉ (List.range keys.length).map (c.readers.length + ·) := by
    have hlt := (List.getElem?_eq_some_iff.mp hr).1
    intro hi
    obtain ⟨m, -, hm⟩ := List.mem_map.mp hi
    omega
  rw [hother i hi]
  exact getElem?_shifted_self hr _ _ _

theorem passes_owned (family : Family κ ι) (hr : c.readers[i]? = some r)
    {next : Bool → Population κ ι} (hp : r.phase = .working a (.owned key next)) :
    ∃ d, Passes family given c d ∧
      d.readers[i]? = some { r with phase := .working a (next (c.owned key)) } := by
  have hshift : Shift family c i r _ [] [] := .owned hp
  refine ⟨_, hshift.passes hr ?_, getElem?_shifted_self hr _ _ _⟩
  rw [hp]
  exact Option.some_ne_none a

/-- A read of a filled collection is answered, and the reader goes on with the list. -/
theorem passes_read (family : Family κ ι) (hr : c.readers[i]? = some r)
    {next : ReadResult ι → Population κ ι} (hp : r.phase = .working a (.read key next))
    {listing : Listing ι} (hcell : c.cells key = ⟨.populated listing, some listing⟩) :
    ∃ d, Passes family given c d ∧
      d.readers[i]? = some { r with phase := .working a (next (.ok listing)) } := by
  have hshift : Shift family c i r _ (childReaders i r [key]) [] := .read hp
  obtain ⟨d, hd, hwaits, hresults⟩ :=
    passes_reads hshift hr (by rw [hp]; exact Option.some_ne_none a) (.cons hcell .nil)
  have hresult : d.result? c.readers.length = some (.ok listing) := by
    cases hresults with
    | cons h _ => exact h
  have hgoes : Shift family d i { r with phase := .awaitingRead a c.readers.length next } _ [] [] :=
    .result rfl hresult
  exact ⟨_, hd.trans (hgoes.passes hwaits (Option.some_ne_none a)),
    getElem?_shifted_self hwaits _ _ _⟩

theorem passes_readAll (family : Family κ ι) (hr : c.readers[i]? = some r) {keys : List κ}
    {next : Except ClientError (List (Listing ι)) → Population κ ι}
    (hp : r.phase = .working a (.readAll keys next)) {listings : List (Listing ι)}
    (hcells : List.Forall₂ (fun key listing => c.cells key = ⟨.populated listing, some listing⟩)
      keys listings) :
    ∃ d, Passes family given c d ∧
      d.readers[i]? = some { r with phase := .working a (next (.ok listings)) } := by
  have hshift : Shift family c i r _ (childReaders i r keys) [] := .readAll hp
  obtain ⟨d, hd, hwaits, hresults⟩ :=
    passes_reads hshift hr (by rw [hp]; exact Option.some_ne_none a) hcells
  have hjoined := joined?_of_forall₂ hresults
  generalize (List.range keys.length).map (c.readers.length + ·) = children at hwaits hjoined
  have hgoes : Shift family d i { r with phase := .awaitingReads a children next } _ [] [] :=
    .joined rfl hjoined
  exact ⟨_, hd.trans (hgoes.passes hwaits (Option.some_ne_none a)),
    getElem?_shifted_self hwaits _ _ _⟩

/-! ## The whole population -/

/-- A reader carries its program out to what this comes to. -/
theorem exists_done {program : Population κ ι} {outcome : Except ClientError (NamedList ι)}
    (h : ComesTo cells owned given program outcome) (hcells : c.cells = cells)
    (howned : c.owned = owned) (hc : Timely c)
    (hr : c.readers[i]? = some { r with phase := .working a program })
    (family : Family κ ι) :
    ∃ d, Passes family given c d ∧
      d.readers[i]? = some { r with phase := .working a (.done outcome) } := by
  -- The collections stay as they are on the way, so the rest still comes to the same.
  induction h generalizing c with
  | done => exact ⟨c, .refl, hr⟩
  | send hgiven _ ih =>
    obtain ⟨d, hd, hgoes⟩ := passes_deliver family hc hr rfl hgiven
    obtain ⟨e, he, hend⟩ := ih (hd.cells.trans hcells) (hd.owned.trans howned) (hd.timely hc) hgoes
    exact ⟨e, hd.trans he, hend⟩
  | owned _ ih =>
    obtain ⟨d, hd, hgoes⟩ := passes_owned family hr rfl
    rw [howned] at hgoes
    obtain ⟨e, he, hend⟩ := ih (hd.cells.trans hcells) (hd.owned.trans howned) (hd.timely hc) hgoes
    exact ⟨e, hd.trans he, hend⟩
  | read hcell _ ih =>
    obtain ⟨d, hd, hgoes⟩ := passes_read family hr rfl (hcells ▸ hcell)
    obtain ⟨e, he, hend⟩ := ih (hd.cells.trans hcells) (hd.owned.trans howned) (hd.timely hc) hgoes
    exact ⟨e, hd.trans he, hend⟩
  | readAll hall _ ih =>
    obtain ⟨d, hd, hgoes⟩ := passes_readAll family hr rfl (hcells ▸ hall)
    obtain ⟨e, he, hend⟩ := ih (hd.cells.trans hcells) (hd.owned.trans howned) (hd.timely hc) hgoes
    exact ⟨e, hd.trans he, hend⟩

/-- A collection has been read from outside, with replies of those that are given. -/
structure CarriedOut (family : Family κ ι) (given : List Reply) (c : Config κ ι) (key : κ)
    (outcome : Except ClientError (NamedList ι)) (d : Config κ ι) : Prop where
  reached : ∃ more : List (Event κ), more.foldl (step family) c = d
  owned : d.owned = c.owned
  answered : d.readers[c.readers.length]? = some ⟨key, [], [],
    .finished (some c.attempts.length) (outcome.map fun items => ⟨c.attempts.length, items⟩)⟩
  cell : d.cells key = c.cellAfter key c.attempts.length outcome
  others : ∀ other, other ≠ key → d.cells other = c.cells other
  heard : ∀ entry ∈ d.replies, entry ∈ c.replies ∨ c.sent.length ≤ entry.1 ∧ entry.2 ∈ given

/-- What the attempt has heard is among the replies that are given. -/
theorem CarriedOut.mem_given {outcome : Except ClientError (NamedList ι)}
    (h : CarriedOut family given c key outcome d) (hc : Timely c) (hcoherent : Coherent c)
    {q : Nat} {sent : Sent} {reply : Reply} (hq : d.sent[q]? = some sent)
    (hsent : sent.attempt = c.attempts.length) (hreply : d.reply? q = some reply) :
    reply ∈ given := by
  have hlate : c.sent.length ≤ q := by
    by_contra hearly
    have hlt : q < c.sent.length := by omega
    obtain ⟨more, rfl⟩ := h.reached
    obtain ⟨new, hnew⟩ := sent_foldl family c more
    rw [← hnew, List.getElem?_append_left hlt] at hq
    have hbegun := hcoherent.sent (List.mem_of_getElem? hq)
    omega
  obtain ⟨entry, hfind, rfl⟩ := Option.map_eq_some_iff.mp hreply
  have hentry := List.find?_some hfind
  rw [beq_iff_eq] at hentry
  rcases h.heard entry (List.mem_of_find?_eq_some hfind) with hold | ⟨-, hgiven⟩
  · have hlt := hc entry hold
    omega
  · exact hgiven

/-- A read of an empty collection can be carried out, if those that its program reads are filled. -/
theorem exists_carriedOut {outcome : Except ClientError (NamedList ι)} (hc : Timely c)
    (hcell : c.cells key = ⟨.empty, none⟩)
    (h : ComesTo c.cells c.owned given (family.program key) outcome) :
    ∃ d, CarriedOut family given c key outcome d := by
  let begun := (c.begun key).withReader key (.working c.attempts.length (family.program key))
  have hbegun : (c.start key).advance family c.readers.length = begun :=
    advance_entering (n := c.readers.length) rfl hcell
  have hreader : begun.readers[c.readers.length]? =
      some ⟨key, [], [], .working c.attempts.length (family.program key)⟩ :=
    getElem?_withReader rfl key _
  -- The collection itself is not among those that its program reads: it was empty.
  have hfilled : ComesTo begun.cells begun.owned given (family.program key) outcome := by
    refine h.mono fun other listing hother => ?_
    have hne : other ≠ key := by
      rintro rfl
      rw [hcell] at hother
      cases hother
    exact (if_neg hne).trans hother
  have htimely : Timely begun := by
    rw [← hbegun]
    exact hc.foldl family [.start key, .advance c.readers.length]
  obtain ⟨d, hd, hend⟩ := exists_done (r := ⟨key, [], [], .entering⟩) hfilled rfl rfl htimely
    hreader family
  obtain ⟨more, hmore⟩ := hd.reached
  let events : List (Event κ) :=
    [.start key, .advance c.readers.length] ++ more ++ [.advance c.readers.length]
  have hrun : events.foldl (step family) c =
      d.finish c.readers.length ⟨key, [], [], .working c.attempts.length (.done outcome)⟩
        c.attempts.length outcome := by
    simp only [events, List.foldl_append, List.foldl_cons, List.foldl_nil, step]
    rw [hbegun, hmore, advance, hend]
    rfl
  have hother : ∀ other, other ≠ key → d.cells other = c.cells other := by
    intro other hne
    rw [hd.cells]
    exact if_neg hne
  refine ⟨_, ⟨events, hrun⟩, hd.owned, ?_, ?_, fun other hne => ?_, hd.heard⟩
  · rw [(finish_eq d _ _ _ outcome).1, getElem?_setPhase_self hend]
  · rw [cells_finish, if_pos rfl]
    cases outcome with
    | ok items => rfl
    | error e =>
      have hpublished : (d.cells key).published = (c.cells key).published := by
        rw [hd.cells, hcell]
        show ((c.begun key).cells key).published = none
        simp [Config.begun, setCell]
      rw [cellAfter, cellAfter, hpublished]
  · rw [cells_finish, if_neg hne]
    exact hother other hne

end Config

end CubeClient.Deferred
