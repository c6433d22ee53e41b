import CubeClient.Proofs.Deferred.Guard

/-!
# The invariants together

`Coherent` is what the theorems about runs start from: the forest of readers, the agreement about
who fills what, that a reader waits for an attempt on its own collection, and that nothing is sent
but by attempts. It holds of the first configuration and is kept by every transition, so
`Coherent.run` gives it for every run.

On the way there it is said once what a step can make of a collection (`Transition.change`), of the
attempts and of the messages.
-/

namespace CubeClient.Deferred

namespace Config

variable {κ ι : Type} [Named ι]

/-- What holds in every configuration that a run leads to. -/
structure Coherent (c : Config κ ι) : Prop where
  linked : Linked c
  guarded : Guarded c
  waiting : ∀ {i a : Nat} {r : Reader κ ι}, c.readers[i]? = some r → r.phase = .waiting a →
    c.attempts[a]? = some r.key
  sent : ∀ {s : Sent}, s ∈ c.sent → s.attempt < c.attempts.length

variable {family : Family κ ι} {c d : Config κ ι} {i j a b : Nat} {key : κ} {r s : Reader κ ι}
  {listing : Listing ι}

theorem Coherent.initial : Coherent (Config.initial : Config κ ι) where
  linked := .initial
  guarded := .initial
  waiting h := by cases h
  sent h := by cases h

/-- Whoever fills a collection works on an attempt of that collection. -/
theorem Coherent.attempt_of_populates (h : Coherent c) (hi : c.Populates i key a) :
    c.attempts[a]? = some key :=
  h.guarded.runner.mpr ⟨i, hi.ran⟩

/-- Nobody fills a collection that is filled. -/
theorem Coherent.not_populates (h : Coherent c) (hs : (c.cells key).state = .populated listing) :
    ¬ c.Populates i key a := by
  intro hi
  rw [h.guarded.populating.mpr ⟨i, hi⟩] at hs
  cases hs

/-- A collection that is filled is published with the same list. -/
theorem Coherent.cell_of_populated (h : Coherent c)
    (hs : (c.cells key).state = .populated listing) :
    c.cells key = ⟨.populated listing, some listing⟩ := by
  have hp := h.guarded.published.mpr hs
  rcases hcell : c.cells key with ⟨state, published⟩
  rw [hcell] at hs hp
  rw [show state = _ from hs, show published = _ from hp]

/-! ## What a step does to collections, attempts and messages -/

/-- What a step can make of a collection. -/
inductive Change (c d : Config κ ι) (key : κ) : Prop
  | same (h : d.cells key = c.cells key)
  | emptied (h : (d.cells key).state = .empty) (hi : ∃ i a, c.Populates i key a)
  | begun (hc : c.cells key = ⟨.empty, none⟩)
      (h : (d.cells key).state = .populating c.attempts.length)
      (ha : d.attempts = c.attempts ++ [key])
  | filled {i : Nat} {r : Reader κ ι} {a : Nat} {items : NamedList ι}
      (hr : c.readers[i]? = some r) (hkey : r.key = key)
      (hp : r.phase = .working a (.done (.ok items)))
      (h : (d.cells key).state = .populated ⟨a, items⟩) (ha : d.attempts = c.attempts)
      (hd : d.readers[i]? = some { r with phase := .finished (some a) (.ok ⟨a, items⟩) })

variable [DecidableEq κ]

/-- Giving up readers empties the collections that they were filling, and changes no other one. -/
theorem Change.abandon {roots : List Nat} (hcells : d.cells = (c.abandon roots).cells)
    (key : κ) : Change c d key := by
  by_cases h : ∃ i r, c.readers[i]? = some r ∧ isGone roots i r = true ∧ r.key = key ∧
      ∃ a, r.phase.active? = some a
  · obtain ⟨i, r, hr, hgone, rfl, a, ha⟩ := h
    refine .emptied ?_ ⟨i, a, r, hr, rfl, ha⟩
    rw [hcells, cells_abandon_of_gone hr hgone ha]
  · refine .same ?_
    rw [hcells]
    refine cells_abandon_of_kept fun i r hr hgone hkey => ?_
    cases ha : r.phase.active? with
    | none => rfl
    | some a => exact absurd ⟨i, r, hr, hgone, hkey, a, ha⟩ h

/-- All that a step can make of a collection. -/
theorem Transition.change (ht : Transition family c d) (key : κ) : Change c d key := by
  cases ht with
  | outside hc => exact .same (by rw [hc])
  | start => exact .same rfl
  | shift => exact .same rfl
  | @fill i r hr hp hc =>
    by_cases hkey : key = r.key
    · subst hkey
      refine .begun hc ?_ (enter_of_empty hc).2.1
      rw [cells_enter hc, if_pos rfl]
    · exact .same (by rw [cells_enter hc, if_neg hkey])
  | @finish i r a result hr hp =>
    by_cases hkey : key = r.key
    · subst hkey
      cases result with
      | ok items =>
        refine .filled hr rfl hp ?_ (finish_eq c i r a _).2.1 ?_
        · rw [cells_finish, if_pos rfl]
          rfl
        · rw [(finish_eq c i r a _).1, getElem?_setPhase_self hr]
          rfl
      | error error =>
        refine .emptied ?_ ⟨i, a, r, hr, rfl, by rw [hp]; rfl⟩
        rw [cells_finish, if_pos rfl]
        rfl
    · exact .same (by rw [cells_finish, if_neg hkey])
  | @fail i r a children next error =>
    have hcells : ((c.abandon children).setPhase i (.working a (next (.error error)))).cells =
        (c.abandon children).cells := cells_setPhase _ _ _
    exact .abandon hcells key
  | giveUp => exact .abandon rfl key

/-- A collection that is filled stays as it is. -/
theorem Transition.cell_of_populated (ht : Transition family c d) (h : Coherent c)
    (hs : (c.cells key).state = .populated listing) : d.cells key = c.cells key := by
  cases ht.change key with
  | same heq => exact heq
  | emptied _ hi =>
    obtain ⟨i, a, hi⟩ := hi
    exact absurd hi (h.not_populates hs)
  | begun hc =>
    rw [hc] at hs
    cases hs
  | @filled i r a items hr hkey hp =>
    have hi : c.Populates i key a := ⟨r, hr, hkey, by rw [hp]; rfl⟩
    exact absurd hi (h.not_populates hs)

namespace Transition

/-- A step begins at most one attempt, on a collection that is empty. -/
theorem attempts (h : Transition family c d) :
    d.attempts = c.attempts ∨
      ∃ (i : Nat) (r : Reader κ ι), c.readers[i]? = some r ∧ r.phase = .entering ∧
        c.cells r.key = ⟨.empty, none⟩ ∧ d.attempts = c.attempts ++ [r.key] := by
  cases h with
  | outside _ _ ha => exact Or.inl ha
  | start key => exact Or.inl rfl
  | shift hr h => exact Or.inl rfl
  | fill hr hp hc => exact Or.inr ⟨_, _, hr, hp, hc, (enter_of_empty hc).2.1⟩
  | finish hr hp => exact Or.inl (finish_eq c _ _ _ _).2.1
  | fail => exact Or.inl (attempts_abandon c _)
  | giveUp => exact Or.inl (attempts_abandon c _)

/-- A step sends at most one message, on behalf of the attempt that is under way. -/
theorem sent (h : Transition family c d) :
    d.sent = c.sent ∨
      ∃ (i : Nat) (r : Reader κ ι) (a : Nat) (message : Message) (next : Reply → Population κ ι),
        c.readers[i]? = some r ∧ r.phase = .working a (.send message next) ∧
        d.readers[i]? = some { r with phase := .awaitingReply a c.sent.length next } ∧
        d.sent = c.sent ++ [⟨a, message⟩] := by
  cases h with
  | outside _ _ _ _ hs => exact Or.inl hs
  | start key => exact Or.inl rfl
  | shift hr h =>
    cases h with
    | send hp => exact Or.inr ⟨_, _, _, _, _, hr, hp, getElem?_shifted_self hr _ _ _, rfl⟩
    | _ => exact Or.inl (List.append_nil _)
  | fill _ _ hc => exact Or.inl (enter_of_empty hc).2.2.2
  | finish => exact Or.inl (finish_eq c _ _ _ _).2.2.2
  | fail => exact Or.inl (sent_abandon c _)
  | giveUp => exact Or.inl (sent_abandon c _)

/-- Attempts are never forgotten. -/
theorem attempt (h : Transition family c d) (ha : c.attempts[a]? = some key) :
    d.attempts[a]? = some key := by
  rcases h.attempts with heq | ⟨-, r, -, -, -, heq⟩
  · rw [heq, ha]
  · rw [heq, List.getElem?_append_left (List.getElem?_eq_some_iff.mp ha).1, ha]

end Transition

namespace Coherent

/-- A step keeps the invariants together, each of them with the help of the others. -/
theorem transition (h : Coherent c) (ht : Transition family c d) : Coherent d where
  linked := h.linked.transition ht
  guarded := h.guarded.transition h.linked ht
  waiting {i a s} hs hp := by
    rcases ht.before hs with ⟨r, hr, hsame, hphase | hturn⟩ | ⟨-, hborn⟩
    · rw [hsame.key]
      exact ht.attempt (h.waiting hr (hphase ▸ hp))
    · rw [hsame.key]
      rw [hp] at hturn
      cases hturn with
      | shift hshift =>
        cases hshift with
        | wait _ hstate =>
          obtain ⟨j, hj⟩ := h.guarded.populating.mp hstate
          exact ht.attempt (h.attempt_of_populates hj)
    · rw [hborn.entering] at hp
      cases hp
  sent {s} hs := by
    have hle : c.attempts.length ≤ d.attempts.length := by
      rcases ht.attempts with heq | ⟨-, r, -, -, -, heq⟩
      · exact Nat.le_of_eq (congrArg List.length heq.symm)
      · rw [heq, List.length_append]
        exact Nat.le_add_right _ _
    rcases ht.sent with heq | ⟨i, r, a, message, next, hr, hp, -, heq⟩
    · rw [heq] at hs
      exact Nat.lt_of_lt_of_le (h.sent hs) hle
    · rw [heq, List.mem_append, List.mem_singleton] at hs
      rcases hs with hs | rfl
      · exact Nat.lt_of_lt_of_le (h.sent hs) hle
      · have hi : c.Populates i r.key a := ⟨r, hr, rfl, by rw [hp]; rfl⟩
        exact Nat.lt_of_lt_of_le (List.getElem?_eq_some_iff.mp (h.attempt_of_populates hi)).1 hle

theorem foldl (h : Coherent c) (family : Family κ ι) (events : List (Event κ)) :
    Coherent (events.foldl (step family) c) :=
  foldl_induction (fun _ _ h ht => h.transition ht) events h

theorem run (family : Family κ ι) (events : List (Event κ)) : Coherent (run family events) :=
  initial.foldl family events

/-- What transitions keep that start from coherent configurations is kept from any of them on. -/
theorem foldl_induction {P : Config κ ι → Prop} (h : Coherent c)
    (hstep : ∀ c d, Coherent c → P c → Transition family c d → P d) (events : List (Event κ))
    (hc : P c) : P (events.foldl (step family) c) := by
  have hkeep : ∀ c d, Coherent c ∧ P c → Transition family c d → Coherent d ∧ P d :=
    fun c d h ht => ⟨h.1.transition ht, hstep c d h.1 h.2 ht⟩
  exact (Config.foldl_induction hkeep events ⟨h, hc⟩).2

/-- What they keep and holds in the first configuration holds in every one that is reached. -/
theorem run_induction {P : Config κ ι → Prop} (hinitial : P Config.initial)
    (hstep : ∀ c d, Coherent c → P c → Transition family c d → P d) (events : List (Event κ)) :
    P (Config.run family events) :=
  initial.foldl_induction hstep events hinitial

end Coherent

end Config

end CubeClient.Deferred
