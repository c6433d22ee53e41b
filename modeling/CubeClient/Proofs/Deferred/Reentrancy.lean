import CubeClient.Proofs.Deferred.Answers
import CubeClient.Proofs.Deferred.Waiting

/-!
# Reads from inside a population

A read that is issued while its own collection is being filled, on behalf of the very reader that
fills it, would wait for itself, and is refused. What decides is the list of collections that the
read was given when it was started (`Reader.within`), which is copied from reader to reader. That
this list tells the truth is the invariant `Nested`: it names the collections of those on whose
behalf the read was issued, and each of them has made an attempt.

So a read is refused exactly if it comes from inside a population of its own collection
(`reads_refused`), however deep and however many stand side by side.
-/

namespace CubeClient.Deferred

namespace Config

variable {κ ι : Type} [Named ι] {family : Family κ ι} {c d : Config κ ι} {i j a : Nat} {key : κ}
  {r s : Reader κ ι}

/-- A read comes from inside a population of its own collection: somebody on whose behalf it reads
has made an attempt on that collection. -/
def Inside (c : Config κ ι) (r : Reader κ ι) : Prop :=
  ∃ j ∈ r.ancestors, ∃ a, c.Ran j r.key a

/-- What a read answers that is refused. It names the collection. -/
def refusal (family : Family κ ι) (key : κ) : ReadResult ι :=
  .error (.reentrantPopulation (family.label key))

/-! ## The list of collections tells the truth -/

/-- Reads know inside whose populations they were issued, and are refused accordingly. -/
structure Nested (family : Family κ ι) (c : Config κ ι) : Prop where
  tracked : ∀ {i : Nat} {r : Reader κ ι}, c.readers[i]? = some r →
    List.Forall₂ (fun j key => ∃ a, c.Ran j key a) r.ancestors r.within
  barred : ∀ {i : Nat} {r : Reader κ ι}, c.readers[i]? = some r → r.key ∈ r.within →
    r.phase = .entering ∨ r.phase = .finished none (refusal family r.key) ∨
      r.phase = .abandoned none

theorem Nested.initial : Nested family (Config.initial : Config κ ι) where
  tracked h := by cases h
  barred h := by cases h

/-- An attempt is of one collection. -/
theorem Ran.key_unique {b : Nat} {key' : κ} (h : c.Ran j key a) (h' : c.Ran j key' b) :
    key = key' := by
  obtain ⟨r, hr, rfl, -⟩ := h
  obtain ⟨s, hs, rfl, -⟩ := h'
  rw [Option.some.inj (hr.symm.trans hs)]

/-- A read is inside a population of its collection if it was issued inside one. -/
theorem Nested.inside_iff (h : Nested family c) (hr : c.readers[i]? = some r) :
    c.Inside r ↔ r.key ∈ r.within := by
  constructor
  · rintro ⟨j, hj, a, hran⟩
    obtain ⟨key, hkey, b, hran'⟩ := exists_of_forall₂ (h.tracked hr) hj
    rwa [hran.key_unique hran']
  · intro hwithin
    exact exists_of_forall₂ (h.tracked hr).flip hwithin

/-- On behalf of a reader without an attempt nobody reads. -/
theorem Nested.not_mem_ancestors (h : Nested family c) (hr : c.readers[i]? = some r)
    (hown : r.phase.own? = none) (hs : c.readers[j]? = some s) : i ∉ s.ancestors := by
  intro hi
  obtain ⟨key, -, a, q, hq, -, ha⟩ := exists_of_forall₂ (h.tracked hs) hi
  obtain rfl := Option.some.inj (hr.symm.trans hq)
  rw [hown] at ha
  cases ha

/-- A turn keeps the attempt of a reader. -/
theorem Turn.own?_eq_some {phase : Phase κ ι} (h : Turn family c d i r phase)
    (hown : r.phase.own? = some a) : phase.own? = some a := by
  cases h with
  | fill hp => rw [hp] at hown; cases hown
  | shift hshift => rw [hshift.active?_eq.2, hown]
  | finish hp => rwa [hp] at hown
  | fail hp => rwa [hp] at hown
  | drop hgone => rwa [Phase.own?_eq_active? (isOver_of_isGone hgone)] at hown

/-- The collection of a read that comes from inside is being filled as long as the read is not
over. -/
theorem Coherent.populating_of_within (h : Coherent c) (hr : c.readers[i]? = some r)
    (hlive : r.phase.isOver = false) (hwithin : r.key ∈ r.within) :
    ∃ a, c.cells r.key = ⟨.populating a, none⟩ := by
  obtain ⟨k, q, b, hq, -, hkey, hactive⟩ := h.linked.exists_populating hr hlive hwithin
  exact ⟨b, h.guarded.cell_of_populates ⟨q, hq, hkey, hactive⟩⟩

namespace Nested

/-- A read inside its own population has looked at nothing yet, or is over. -/
theorem entering (h : Nested family c) (hr : c.readers[i]? = some r) (hwithin : r.key ∈ r.within)
    (hlive : r.phase.isOver = false) : r.phase = .entering := by
  rcases h.barred hr hwithin with hp | hp | hp
  · exact hp
  · rw [hp] at hlive
    cases hlive
  · rw [hp] at hlive
    cases hlive

/-- A read that has answered was refused if it came from inside. -/
theorem refused (h : Nested family c) (hr : c.readers[i]? = some r) (hwithin : r.key ∈ r.within)
    {own : Option Nat} {result : ReadResult ι} (hp : r.phase = .finished own result) :
    own = none ∧ result = refusal family r.key := by
  rcases h.barred hr hwithin with hother | hother | hother
  · rw [hp] at hother
    cases hother
  · rw [hp] at hother
    cases hother
    exact ⟨rfl, rfl⟩
  · rw [hp] at hother
    cases hother

/-- A read inside its own population waits for nobody and makes no attempt. -/
theorem idle (h : Nested family c) (hr : c.readers[i]? = some r) (hwithin : r.key ∈ r.within) :
    (∀ a, r.phase ≠ .waiting a) ∧ r.phase.own? = none := by
  rcases h.barred hr hwithin with hp | hp | hp
  all_goals
    rw [hp]
    exact ⟨fun a hwaiting => (by cases hwaiting), rfl⟩

/-- A turn of a read from inside refuses it or gives it up. -/
theorem turn (h : Nested family c) (hc : Coherent c) (hr : c.readers[i]? = some r)
    (hwithin : r.key ∈ r.within) {phase : Phase κ ι} (ht : Turn family c d i r phase) :
    phase = .finished none (refusal family r.key) ∨ phase = .abandoned none := by
  have hp : r.phase = .entering := h.entering hr hwithin ht.isOver
  obtain ⟨b, hcell⟩ := hc.populating_of_within hr ht.isOver hwithin
  cases ht with
  | shift hshift =>
    cases hshift with
    | hit _ hfilled =>
      rw [hcell] at hfilled
      rcases hfilled with hfilled | hfilled <;> cases hfilled
    | refuse => exact .inl rfl
    | wait _ _ houtside => exact absurd hwithin houtside
    | _ => rename r.phase = _ => hother; rw [hp] at hother; cases hother
  | fill _ hempty => rw [hcell] at hempty; cases hempty
  | finish hother => rw [hp] at hother; cases hother
  | fail hother => rw [hp] at hother; cases hother
  | drop => exact .inr (by rw [hp]; rfl)

end Nested

variable [DecidableEq κ]

/-- A step takes no attempt from its reader. -/
theorem Transition.ran (ht : Transition family c d) (h : c.Ran j key a) : d.Ran j key a := by
  obtain ⟨r, hr, hkey, hown⟩ := h
  obtain ⟨phase, hd, rfl | hturn⟩ := ht.reader hr
  · exact ⟨_, hd, hkey, hown⟩
  · exact ⟨_, hd, hkey, hturn.own?_eq_some hown⟩

namespace Nested

/-- A step leaves every read inside the populations that it was issued in. -/
theorem transition (h : Nested family c) (hc : Coherent c) (ht : Transition family c d) :
    Nested family d where
  tracked {i s} hs := by
    have hkept : ∀ (j : Nat) (key : κ), (∃ a, c.Ran j key a) → ∃ a, d.Ran j key a :=
      fun j key ⟨a, hran⟩ => ⟨a, ht.ran hran⟩
    rcases ht.before hs with ⟨r, hr, hsame, -⟩ | ⟨-, hborn⟩
    · rw [hsame.ancestors, hsame.within]
      exact (h.tracked hr).imp hkept
    · cases hborn with
      | outside _ hancestors hwithin =>
        rw [hancestors, hwithin]
        exact .nil
      | inside _ hr hworking _ hancestors hwithin =>
        rw [hancestors, hwithin]
        exact .cons (hkept _ _ ⟨_, _, hr, rfl, by rw [hworking]; rfl⟩) ((h.tracked hr).imp hkept)
  barred {i s} hs hwithin := by
    rcases ht.before hs with ⟨r, hr, hsame, hphase | hturn⟩ | ⟨-, hborn⟩
    · rw [hsame.key, hsame.within] at hwithin
      rw [hphase, hsame.key]
      exact h.barred hr hwithin
    · rw [hsame.key, hsame.within] at hwithin
      rw [hsame.key]
      exact .inr (h.turn hc hr hwithin hturn)
    · exact .inl hborn.entering

theorem run (family : Family κ ι) (events : List (Event κ)) :
    Nested family (run family events) :=
  Coherent.run_induction .initial (fun _ _ hc h ht => h.transition hc ht) events

end Nested

/-! ## Which reads are refused -/

namespace Nested

/-- A turn of a read from inside refuses it and changes nothing else. -/
theorem advance_eq (h : Nested family c) (hc : Coherent c) (hr : c.readers[i]? = some r)
    (hwithin : r.key ∈ r.within) (hlive : r.phase.isOver = false) :
    c.advance family i = c.setPhase i (.finished none (refusal family r.key)) := by
  have hp : r.phase = .entering := h.entering hr hwithin hlive
  obtain ⟨a, hcell⟩ := hc.populating_of_within hr hlive hwithin
  simp only [advance, hr, hp, enter, hcell, hwithin, if_true, refusal]

end Nested

/-- How the reads of a run are refused that come from inside populations of their own collections,
and that no others are. -/
structure Refusals (family : Family κ ι) (events : List (Event κ)) : Prop where
  /-- Of the reads that have answered, exactly those from inside have been refused. -/
  refused_iff : ∀ {i : Nat} {r : Reader κ ι} {own : Option Nat} {result : ReadResult ι},
    (run family events).readers[i]? = some r → r.phase = .finished own result →
    (own = none ∧ result = refusal family r.key ↔ (run family events).Inside r)
  /-- A read from inside is refused at its first turn, and this turn does nothing else. -/
  atOnce : ∀ {i : Nat} {r : Reader κ ι}, (run family events).readers[i]? = some r →
    (run family events).Inside r → r.phase.isOver = false →
    (run family events).advance family i =
      (run family events).setPhase i (.finished none (refusal family r.key))
  /-- At no time does it wait or have an attempt of its own. So none of the messages is one of its
  own, and nobody reads or sends on its behalf. -/
  idle : ∀ {i : Nat} {r : Reader κ ι}, (run family events).readers[i]? = some r →
    (run family events).Inside r →
    (∀ a, r.phase ≠ .waiting a) ∧ r.phase.own? = none ∧
      (∀ s ∈ (run family events).sent, ¬ (run family events).Ran i r.key s.attempt) ∧
      ∀ (j : Nat) (s : Reader κ ι), (run family events).readers[j]? = some s → i ∉ s.ancestors
  /-- Any other read fails only with the error that an attempt of its own has ended with, be it one
  that a handler passes on from a read inside. -/
  outside : ∀ {i : Nat} {r : Reader κ ι} {own : Option Nat} {error : ClientError},
    (run family events).readers[i]? = some r → ¬ (run family events).Inside r →
    r.phase = .finished own (.error error) →
    ∃ (a : Nat) (before : List (Event κ)) (q : Reader κ ι), own = some a ∧ before <+: events ∧
      (run family before).readers[i]? = some q ∧ q.phase = .working a (.done (.error error))
  /-- Reads that stand side by side are not inside each other: of those on behalf of the same
  readers none is refused unless their collection is that of one of these readers. -/
  beside : ∀ {i j : Nat} {r s : Reader κ ι}, (run family events).readers[i]? = some r →
    (run family events).readers[j]? = some s → s.ancestors = r.ancestors → s.key = r.key →
    ¬ (run family events).Inside r → ∀ error, s.phase ≠ .finished none (.error error)

/-- A read is refused if and only if it is issued from inside a population of its own collection,
whatever the programs of the collections read, one after the other or side by side. -/
theorem reads_refused (family : Family κ ι) (events : List (Event κ)) : Refusals family events := by
  have hc := Coherent.run family events
  have hnested := Nested.run family events
  have hanswered := Answered.run family events
  have houtside : ∀ {i : Nat} {r : Reader κ ι} {error : ClientError},
      (run family events).readers[i]? = some r → ¬ (run family events).Inside r →
      r.phase ≠ .finished none (.error error) := fun hr hin hp =>
    hin ((hnested.inside_iff hr).mpr (hanswered.refused hr hp))
  refine ⟨?_, ?_, ?_, ?_, ?_⟩
  · intro i r own result hr hp
    rw [hnested.inside_iff hr]
    refine ⟨?_, fun hwithin => hnested.refused hr hwithin hp⟩
    rintro ⟨rfl, rfl⟩
    exact hanswered.refused hr hp
  · intro i r hr hin hlive
    exact hnested.advance_eq hc hr ((hnested.inside_iff hr).mp hin) hlive
  · intro i r hr hin
    obtain ⟨hwaits, hown⟩ := hnested.idle hr ((hnested.inside_iff hr).mp hin)
    refine ⟨hwaits, hown, ?_, fun j s hs => hnested.not_mem_ancestors hr hown hs⟩
    rintro s - ⟨q, hq, -, ha⟩
    obtain rfl := Option.some.inj (hr.symm.trans hq)
    rw [hown] at ha
    cases ha
  · intro i r own error hr hin hp
    cases own with
    | none => exact absurd hp (houtside hr hin)
    | some a =>
      obtain ⟨before, outcome, q, hbefore, hq, hworking, heq⟩ := answered_own family hr hp
      cases outcome with
      | ok items => cases heq
      | error e =>
        cases heq
        exact ⟨a, before, q, rfl, hbefore, hq, hworking⟩
  · intro i j r s hr hs hancestors hkey hin error
    refine houtside hs ?_
    rwa [Inside, hancestors, hkey]

-- Of two collections that are filled from each other one is read: inside its population the other
-- one is filled, and from there the first one is read again.
example (ι : Type) [Named ι] : (run (crossing ι) [.start true, .advance 0, .advance 0, .advance 1,
    .advance 1, .advance 2]).result? 2 = some (refusal (crossing ι) true) := rfl

end Config

end CubeClient.Deferred
