import CubeClient.Proofs.Deferred.Population
import Mathlib.Data.List.Induction

/-!
# Who answers what

A read ends with the error of the attempt that it made itself, with the list of the collection, or
refused because it was issued while that very collection was being filled. `Answered` says so of a
configuration, and `answered_own` follows an answer back to the end of the attempt that gave it. The
attempt that fills a collection is the last one on it.
-/

namespace CubeClient.Deferred

namespace Config

variable {κ ι : Type} [Named ι] {family : Family κ ι} {c d : Config κ ι} {i a : Nat} {key : κ}
  {r s : Reader κ ι} {listing : Listing ι}

/-! ## The invariant -/

/-- A turn keeps the attempt of a reader that has one; only filling an empty collection makes
one. -/
theorem Turn.begun {phase : Phase κ ι} (h : Turn family c d i r phase) :
    phase.own? = r.phase.own? ∨
      (c.cells r.key = ⟨.empty, none⟩ ∧
        phase = .working c.attempts.length (family.program r.key) ∧ d.sent = c.sent) := by
  cases h with
  | shift hshift => exact Or.inl hshift.active?_eq.2
  | fill hp hc hsent => exact Or.inr ⟨hc, rfl, hsent⟩
  | finish hp => rw [hp]; exact Or.inl rfl
  | fail hp => rw [hp]; exact Or.inl rfl
  | drop hgone => rw [Phase.own?_eq_active? (isOver_of_isGone hgone)]; exact Or.inl rfl

/-- Every answer has its reason, and the list of a collection is that of its last attempt. -/
structure Answered (c : Config κ ι) : Prop where
  outside : ∀ {i a : Nat} {r : Reader κ ι}, c.readers[i]? = some r → r.phase.own? = some a →
    r.key ∉ r.within
  refused : ∀ {i : Nat} {r : Reader κ ι} {error : ClientError}, c.readers[i]? = some r →
    r.phase = .finished none (.error error) → r.key ∈ r.within
  listed : ∀ {i : Nat} {r : Reader κ ι} {own : Option Nat} {listing : Listing ι},
    c.readers[i]? = some r → r.phase = .finished own (.ok listing) →
    (c.cells r.key).state = .populated listing ∧ ∀ a, own = some a → listing.attempt = a
  built : ∀ {key : κ} {listing : Listing ι}, (c.cells key).state = .populated listing →
    ∃ (i : Nat) (r : Reader κ ι), c.readers[i]? = some r ∧ r.key = key ∧
      r.phase = .finished (some listing.attempt) (.ok listing)
  last : ∀ {key : κ} {a : Nat}, c.attempts[a]? = some key →
    (∀ b, (c.cells key).state = .populating b → a ≤ b) ∧
      ∀ listing, (c.cells key).state = .populated listing → a ≤ listing.attempt

theorem Answered.initial : Answered (Config.initial : Config κ ι) where
  outside h := by cases h
  refused h := by cases h
  listed h := by cases h
  built h := by cases h
  last h := by cases h

variable [DecidableEq κ]

namespace Answered

/-- A step leaves every answer as it was, and adds only true ones. -/
theorem transition (h : Answered c) (hc : Coherent c) (ht : Transition family c d) :
    Answered d where
  outside {i a s} hs hown := by
    rcases ht.before hs with ⟨r, hr, hsame, hphase | hturn⟩ | ⟨-, hborn⟩
    · rw [hsame.key, hsame.within]
      exact h.outside hr (hphase ▸ hown)
    · rw [hsame.key, hsame.within]
      rcases hturn.begun with heq | ⟨hempty, -, -⟩
      · exact h.outside hr (heq ▸ hown)
      · intro hwithin
        obtain ⟨j, q, b, hq, -, hkey, hactive⟩ :=
          hc.linked.exists_populating hr hturn.isOver hwithin
        have hstate := hc.guarded.cell_of_populates ⟨q, hq, hkey, hactive⟩
        rw [hempty] at hstate
        cases hstate
    · rw [hborn.entering] at hown
      cases hown
  refused {i s error} hs hp := by
    rcases ht.before hs with ⟨r, hr, hsame, hphase | hturn⟩ | ⟨-, hborn⟩
    · rw [hsame.key, hsame.within]
      exact h.refused hr (hphase ▸ hp)
    · rw [hsame.key, hsame.within]
      rw [hp] at hturn
      generalize hfinal : (Phase.finished none (.error error) : Phase κ ι) = phase at hturn
      cases hturn with
      | shift hshift =>
        cases hshift with
        | refuse _ _ hw => exact hw
        | _ => cases hfinal
      | _ => cases hfinal
    · rw [hborn.entering] at hp
      cases hp
  listed {i s own listing} hs hp := by
    rcases ht.before hs with ⟨r, hr, hsame, hphase | hturn⟩ | ⟨-, hborn⟩
    · obtain ⟨hstate, hattempt⟩ := h.listed hr (hphase ▸ hp)
      rw [hsame.key, ht.cell_of_populated hc hstate]
      exact ⟨hstate, hattempt⟩
    · rw [hp] at hturn
      rw [hsame.key]
      generalize hfinal : Phase.finished own (.ok listing) = phase at hturn
      cases hturn with
      | shift hshift =>
        cases hshift with
        | hit _ hcell =>
          cases hfinal
          have hstate := hcell.elim hc.guarded.published.mp id
          rw [ht.cell_of_populated hc hstate]
          exact ⟨hstate, fun a ha => (by cases ha)⟩
        | _ => cases hfinal
      | @finish b result _ hcell =>
        cases result with
        | ok items =>
          cases hfinal
          rw [hcell]
          exact ⟨rfl, fun a ha => Option.some.inj ha⟩
        | error error => cases hfinal
      | _ => cases hfinal
    · rw [hborn.entering] at hp
      cases hp
  built {key listing} hs := by
    cases ht.change key with
    | same hcell =>
      obtain ⟨i, r, hr, hkey, hp⟩ := h.built (hcell ▸ hs)
      obtain ⟨phase, hd, hstays | hturn⟩ := ht.reader hr
      · exact ⟨i, _, hd, hkey, by rw [hstays, hp]⟩
      · have hlive := hturn.isOver
        rw [hp] at hlive
        cases hlive
    | emptied hempty => rw [hempty] at hs; cases hs
    | begun _ hbegun => rw [hbegun] at hs; cases hs
    | filled hr hkey hp hfilled ha hd =>
      obtain rfl := CellState.populated.inj (hfilled.symm.trans hs)
      exact ⟨_, _, hd, hkey, rfl⟩
  last {key a} ha := by
    cases ht.change key with
    | same hcell =>
      rw [hcell]
      rcases ht.attempts with heq | ⟨i, r, -, -, hempty, heq⟩
      · exact h.last (heq ▸ ha)
      · by_cases hkey : r.key = key
        · rw [← hkey, hempty]
          exact ⟨fun b hb => (by cases hb), fun l hl => (by cases hl)⟩
        · rw [heq] at ha
          rcases Nat.lt_or_ge a c.attempts.length with hlt | hge
          · rw [List.getElem?_append_left hlt] at ha
            exact h.last ha
          · rw [List.getElem?_append_right hge] at ha
            have hmem := List.mem_of_getElem? ha
            exact absurd (List.mem_singleton.mp hmem).symm hkey
    | emptied hempty =>
      rw [hempty]
      exact ⟨fun b hb => (by cases hb), fun l hl => (by cases hl)⟩
    | begun _ hbegun heq =>
      rw [hbegun]
      refine ⟨fun b hb => ?_, fun l hl => (by cases hl)⟩
      obtain rfl := CellState.populating.inj hb
      have hlt := (List.getElem?_eq_some_iff.mp ha).1
      rw [heq, List.length_append, List.length_singleton] at hlt
      omega
    | filled hr hkey hp hfilled heq =>
      rw [hfilled]
      refine ⟨fun b hb => (by cases hb), fun l hl => ?_⟩
      obtain rfl := CellState.populated.inj hl
      have hpopulates : c.Populates _ key _ := ⟨_, hr, hkey, by rw [hp]; rfl⟩
      exact (h.last (heq ▸ ha)).1 _ (hc.guarded.populating.mpr ⟨_, hpopulates⟩)

theorem run (family : Family κ ι) (events : List (Event κ)) : Answered (run family events) :=
  Coherent.run_induction .initial (fun _ _ hc h ht => h.transition hc ht) events

end Answered

/-- Whoever has made an attempt answers what the attempt ended with. -/
theorem answered_own (family : Family κ ι) {events : List (Event κ)} {result : ReadResult ι}
    (hr : (run family events).readers[i]? = some r)
    (hp : r.phase = .finished (some a) result) :
    ∃ (before : List (Event κ)) (outcome : Except ClientError (NamedList ι)) (q : Reader κ ι),
      before <+: events ∧ (run family before).readers[i]? = some q ∧
      q.phase = .working a (.done outcome) ∧
      result = outcome.map fun items => ⟨a, items⟩ := by
  induction events using List.reverseRecOn generalizing r with
  | nil => cases hr
  | append_singleton events event ih =>
    have ht : Transition family (run family events) (run family (events ++ [event])) := by
      rw [run_concat]
      exact .of_step family _ event
    rcases ht.before hr with ⟨q, hq, -, hphase | hturn⟩ | ⟨-, hborn⟩
    · obtain ⟨before, outcome, q', hprefix, hrest⟩ := ih hq (hphase ▸ hp)
      exact ⟨before, outcome, q', hprefix.trans (List.prefix_append _ _), hrest⟩
    · rw [hp] at hturn
      generalize hfinal : Phase.finished (some a) result = phase at hturn
      cases hturn with
      | shift hshift => cases hshift <;> cases hfinal
      | @finish b outcome hworking =>
        cases hfinal
        exact ⟨events, outcome, q, List.prefix_append _ _, hq, hworking, rfl⟩
      | _ => cases hfinal
    · rw [hborn.entering] at hp
      cases hp

end Config

end CubeClient.Deferred
