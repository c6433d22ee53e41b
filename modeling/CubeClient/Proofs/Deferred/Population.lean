import CubeClient.Proofs.Deferred.Coherent

/-!
# Population safety

What readers can rely on, in every configuration that a run leads to and whatever the programs of
the collections do: a collection has at most one filler, a list that has been published stays for
good and answers everybody who comes later, and an attempt that does not finish leaves nothing
behind. `Safe` says this, and every run is safe.
-/

namespace CubeClient.Deferred

/-- Whether an event is a turn of a reader. -/
def Event.isTurn {κ : Type} (i : Nat) : Event κ → Bool
  | .advance j => j == i
  | _ => false

/-- How often a reader has its turn. -/
def turns {κ : Type} (i : Nat) (events : List (Event κ)) : Nat :=
  events.countP (Event.isTurn i)

theorem Event.isTurn_cases {κ : Type} (i : Nat) (event : Event κ) :
    event = .advance i ∨ turns i [event] = 0 := by
  cases event with
  | advance j =>
    by_cases hij : j = i
    · exact .inl (by rw [hij])
    · exact .inr (by simp [turns, Event.isTurn, hij])
  | _ => exact .inr rfl

/-- How many turns a reader of a filled collection needs to answer. -/
def Phase.pace {κ ι : Type} [Named ι] : Phase κ ι → Nat
  | .entering => 1
  | .waiting _ => 2
  | _ => 0

namespace Config

variable {κ ι : Type} [Named ι] {family : Family κ ι} {c d e : Config κ ι} {i a : Nat} {key : κ}
  {r s : Reader κ ι} {listing : Listing ι}

/-! ## A collection that is filled -/

/-- Nobody is at an attempt on a filled collection. -/
theorem Coherent.idle (h : Coherent c) (hs : (c.cells key).state = .populated listing)
    (hr : c.readers[i]? = some r) (hkey : r.key = key) : r.phase.active? = none := by
  cases hactive : r.phase.active? with
  | none => rfl
  | some a => exact absurd ⟨r, hr, hkey, hactive⟩ (h.not_populates hs)

/-- What a reader of a filled collection can still do. -/
theorem Turn.of_populated (h : Coherent c) (hs : (c.cells key).state = .populated listing)
    (hr : c.readers[i]? = some r) (hkey : r.key = key) {phase : Phase κ ι}
    (ht : Turn family c d i r phase) :
    (r.phase = .entering ∧ phase = .finished none (.ok listing)) ∨
      ((∃ a, r.phase = .waiting a) ∧ phase = .entering) ∨ phase = .abandoned none := by
  have hidle := h.idle hs hr hkey
  subst hkey
  cases ht with
  | shift hshift =>
    cases hshift with
    | hit hp hcell =>
      rcases hcell with hpublished | hstate
      · rw [h.guarded.published.mp hpublished] at hs
        exact Or.inl ⟨hp, by rw [CellState.populated.inj hs]⟩
      · rw [hstate] at hs
        exact Or.inl ⟨hp, by rw [CellState.populated.inj hs]⟩
    | refuse hp hstate => rw [hstate] at hs; cases hs
    | wait hp hstate => rw [hstate] at hs; cases hs
    | wake hp => exact Or.inr (Or.inl ⟨⟨_, hp⟩, rfl⟩)
    | _ => rename r.phase = _ => hp; rw [hp] at hidle; cases hidle
  | fill hp hc => rw [hc] at hs; cases hs
  | finish hp => rw [hp] at hidle; cases hidle
  | fail hp => rw [hp] at hidle; cases hidle
  | drop => exact Or.inr (Or.inr (by rw [hidle]))

/-- No turn takes a reader of a filled collection further from its answer. -/
theorem Turn.pace_le (h : Coherent c) (hs : (c.cells key).state = .populated listing)
    (hr : c.readers[i]? = some r) (hkey : r.key = key) {phase : Phase κ ι}
    (ht : Turn family c d i r phase) : phase.pace ≤ r.phase.pace := by
  rcases ht.of_populated h hs hr hkey with ⟨-, rfl⟩ | ⟨⟨a, hp⟩, rfl⟩ | rfl
  · exact Nat.zero_le _
  · rw [hp]
    exact Nat.le_succ 1
  · exact Nat.zero_le _

/-- What is true of a collection ever after it has been filled, compared with a time `c` when it
was: the list is the same, no attempt on it has been begun and none of its attempts has sent
anything, and whoever has answered since has answered this list without an attempt of its own. -/
structure Settled (c d : Config κ ι) (key : κ) (listing : Listing ι) : Prop where
  cell : d.cells key = ⟨.populated listing, some listing⟩
  attempts : ∃ new, d.attempts = c.attempts ++ new ∧ key ∉ new
  sent : ∃ new, d.sent = c.sent ++ new ∧
    ∀ s ∈ new, ∃ key', d.attempts[s.attempt]? = some key' ∧ key' ≠ key
  answers : ∀ {i : Nat} {r : Reader κ ι}, d.readers[i]? = some r → r.key = key →
    c.result? i = none → (d.result? i).isSome → r.phase = .finished none (.ok listing)

theorem Settled.refl (h : Coherent c) (hs : (c.cells key).state = .populated listing) :
    Settled c c key listing where
  cell := h.cell_of_populated hs
  attempts := ⟨[], (List.append_nil _).symm, List.not_mem_nil⟩
  sent := ⟨[], (List.append_nil _).symm, fun _ hs => (List.not_mem_nil hs).elim⟩
  answers _ _ hnone hsome := by rw [hnone] at hsome; cases hsome

theorem Settled.state (h : Settled c d key listing) : (d.cells key).state = .populated listing := by
  rw [h.cell]

variable [DecidableEq κ]

namespace Settled

/-- A step leaves a filled collection filled, and starts no attempt on it. -/
theorem transition (h : Settled c d key listing) (hd : Coherent d)
    (ht : Transition family d e) : Settled c e key listing where
  cell := (ht.cell_of_populated hd h.state).trans h.cell
  attempts := by
    obtain ⟨new, hnew, hkey⟩ := h.attempts
    rcases ht.attempts with heq | ⟨i, r, -, -, hempty, heq⟩
    · exact ⟨new, heq.trans hnew, hkey⟩
    · refine ⟨new ++ [r.key], by rw [heq, hnew, List.append_assoc], ?_⟩
      rw [List.mem_append, List.mem_singleton]
      rintro (hmem | rfl)
      · exact hkey hmem
      · rw [h.cell] at hempty
        cases hempty
  sent := by
    obtain ⟨new, hnew, hother⟩ := h.sent
    have hkept : ∀ s ∈ new, ∃ key', e.attempts[s.attempt]? = some key' ∧ key' ≠ key := by
      intro s hs
      obtain ⟨key', hkey', hne⟩ := hother s hs
      exact ⟨key', ht.attempt hkey', hne⟩
    rcases ht.sent with heq | ⟨i, r, a, message, next, hr, hp, -, heq⟩
    · exact ⟨new, heq.trans hnew, hkept⟩
    · refine ⟨new ++ [⟨a, message⟩], by rw [heq, hnew, List.append_assoc], ?_⟩
      intro s hs
      rcases List.mem_append.mp hs with hs | hs
      · exact hkept s hs
      · obtain rfl := List.mem_singleton.mp hs
        have hi : d.Populates i r.key a := ⟨r, hr, rfl, by rw [hp]; rfl⟩
        refine ⟨r.key, ht.attempt (hd.attempt_of_populates hi), ?_⟩
        rintro rfl
        exact hd.not_populates h.state hi
  answers {i s} hs hkey hnone hsome := by
    rcases ht.before hs with ⟨r, hr, hsame, hphase | hturn⟩ | ⟨-, hborn⟩
    · rw [hphase]
      refine h.answers hr (hsame.key ▸ hkey) hnone ?_
      rw [result?, hs, Option.bind_some, hphase] at hsome
      rw [result?, hr]
      exact hsome
    · rcases hturn.of_populated hd h.state hr (hsame.key ▸ hkey) with
        ⟨-, hfinished⟩ | ⟨-, hentering⟩ | hdropped
      · exact hfinished
      · rw [result?, hs, Option.bind_some, hentering] at hsome
        cases hsome
      · rw [result?, hs, Option.bind_some, hdropped] at hsome
        cases hsome
    · rw [result?, hs, Option.bind_some, hborn.entering] at hsome
      cases hsome

end Settled

/-! ## Whoever reads a filled collection gets the list -/

/-- A reader of a filled collection needs no more turns than `Phase.pace` says. -/
theorem Coherent.advance_of_populated (h : Coherent c)
    (hs : (c.cells key).state = .populated listing) (hr : c.readers[i]? = some r)
    (hkey : r.key = key) (family : Family κ ι) :
    ∃ phase, (c.advance family i).readers[i]? = some { r with phase } ∧
      phase.pace = r.phase.pace - 1 := by
  have hidle := h.idle hs hr hkey
  have hcell := h.cell_of_populated hs
  cases hp : r.phase with
  | entering =>
    refine ⟨.finished none (.ok listing), ?_, rfl⟩
    have he : c.advance family i = c.setPhase i (.finished none (.ok listing)) := by
      simp only [advance, hr, hp, enter, hkey, hcell]
    rw [he, getElem?_setPhase_self hr]
  | waiting a =>
    -- the attempt it waits for was one on this collection, so it is over
    have hover : a ∉ c.running := by
      intro ha
      obtain ⟨j, key', hj⟩ := h.guarded.running.mp ha
      obtain rfl : key' = key := by
        have hattempt := h.waiting hr hp
        rw [h.attempt_of_populates hj, hkey] at hattempt
        exact Option.some.inj hattempt
      exact h.not_populates hs hj
    refine ⟨.entering, ?_, rfl⟩
    have he : c.advance family i = c.setPhase i .entering := by
      simp only [advance, hr, hp, if_neg hover]
    rw [he, getElem?_setPhase_self hr]
  | finished own result =>
    have he : c.advance family i = c := by simp only [advance, hr, hp]
    exact ⟨r.phase, by rw [he, hr], by rw [hp]; rfl⟩
  | abandoned own =>
    have he : c.advance family i = c := by simp only [advance, hr, hp]
    exact ⟨r.phase, by rw [he, hr], by rw [hp]; rfl⟩
  | _ => rw [hp] at hidle; cases hidle

/-- What no step raises for a reader, and each of its turns lowers, is used up by enough turns. -/
theorem turns_foldl {P : Config κ ι → Reader κ ι → Prop} {measure : Phase κ ι → Nat}
    (hstep : ∀ {c : Config κ ι} {r : Reader κ ι} (event : Event κ), P c r →
      c.readers[i]? = some r → ∃ s, (c.step family event).readers[i]? = some s ∧
        P (c.step family event) s ∧ measure s.phase ≤ measure r.phase - turns i [event])
    (events : List (Event κ)) :
    ∀ {c : Config κ ι} {r : Reader κ ι}, P c r → c.readers[i]? = some r →
      ∃ s, (events.foldl (step family) c).readers[i]? = some s ∧
        P (events.foldl (step family) c) s ∧
        measure s.phase ≤ measure r.phase - turns i events := by
  induction events with
  | nil =>
    intro c r h hr
    exact ⟨r, hr, h, Nat.le_refl _⟩
  | cons event events ih =>
    intro c r h hr
    obtain ⟨s, hs, hkept, hfirst⟩ := hstep event h hr
    obtain ⟨last, hlast, hend, hle⟩ := ih hkept hs
    refine ⟨last, hlast, hend, ?_⟩
    have hsum : turns i (event :: events) = turns i [event] + turns i events := by
      simp only [turns, List.countP_cons, List.countP_nil]
      omega
    omega

/-- Each of its turns takes a reader of a filled collection nearer to its answer. -/
theorem pace_foldl (events : List (Event κ)) {c : Config κ ι} {r : Reader κ ι} (h : Coherent c)
    (hs : (c.cells key).state = .populated listing) (hr : c.readers[i]? = some r)
    (hkey : r.key = key) :
    ∃ s, (events.foldl (step family) c).readers[i]? = some s ∧ s.key = key ∧
      s.phase.pace ≤ r.phase.pace - turns i events := by
  have hstep : ∀ {c : Config κ ι} {r : Reader κ ι} (event : Event κ),
      (Coherent c ∧ (c.cells key).state = .populated listing ∧ r.key = key) →
      c.readers[i]? = some r → ∃ s, (c.step family event).readers[i]? = some s ∧
        (Coherent (c.step family event) ∧
          ((c.step family event).cells key).state = .populated listing ∧ s.key = key) ∧
        s.phase.pace ≤ r.phase.pace - turns i [event] := by
    intro c r event ⟨h, hs, hkey⟩ hr
    have ht := Transition.of_step family c event
    have hs' : ((c.step family event).cells key).state = .populated listing := by
      rw [ht.cell_of_populated h hs, hs]
    rcases Event.isTurn_cases i event with rfl | hnone
    · obtain ⟨phase, hphase, hpace⟩ := h.advance_of_populated hs hr hkey family
      exact ⟨_, hphase, ⟨h.transition ht, hs', hkey⟩, by simp [turns, Event.isTurn, hpace]⟩
    · obtain ⟨phase, hphase, hstays⟩ := ht.reader hr
      refine ⟨_, hphase, ⟨h.transition ht, hs', hkey⟩, ?_⟩
      rw [hnone, Nat.sub_zero]
      rcases hstays with rfl | hstays
      · exact Nat.le_refl _
      · exact hstays.pace_le h hs hr hkey
  obtain ⟨s, hlast, ⟨-, -, hskey⟩, hle⟩ := turns_foldl hstep events ⟨h, hs, hkey⟩ hr
  exact ⟨s, hlast, hskey, hle⟩

/-! ## An attempt that does not finish -/

/-- The collection of a reader that is given up is empty again, and nothing is answered. -/
theorem Coherent.emptied (h : Coherent c) {roots : List Nat} (hi : c.Populates i key a)
    (hgone : c.GoneAt roots i) :
    (c.abandon roots).cells key = ⟨.empty, none⟩ ∧ (c.abandon roots).result? i = none := by
  have hcell := h.guarded.cell_of_populates hi
  obtain ⟨r, hr, rfl, hactive⟩ := hi
  obtain ⟨s, hs, hgone⟩ := hgone
  obtain rfl : r = s := Option.some.inj (hr.symm.trans hs)
  refine ⟨?_, ?_⟩
  · rw [cells_abandon_of_gone hr hgone hactive, hcell]
  · rw [result?, getElem?_abandon, hr, Option.map_some, dropped_of_isGone hgone]
    rfl

/-- When somebody stops filling a collection, either it holds the list of this attempt, which the
reader answers, or it is empty and the reader does not answer a list. -/
theorem Transition.stopped (ht : Transition family c d) (h : Coherent c)
    (hi : c.Populates i key a) (hstop : ¬ d.Populates i key a) :
    (∃ items, d.cells key = ⟨.populated ⟨a, items⟩, some ⟨a, items⟩⟩ ∧
      d.result? i = some (.ok ⟨a, items⟩)) ∨
    (d.cells key = ⟨.empty, none⟩ ∧ ∀ listing, d.result? i ≠ some (.ok listing)) := by
  cases ht with
  | outside _ hreaders => exact absurd ((Marks.of_readers hreaders).mpr hi) hstop
  | start key' =>
    refine absurd ((Marks.of_append rfl fun s hs => ?_).mpr hi) hstop
    rw [List.mem_singleton.mp hs]
    rfl
  | shift hr hshift => exact absurd ((hshift.populates_iff hr).mpr hi) hstop
  | @fill j r hr hp hc =>
    rw [Populates, Marks.of_readers (enter_of_empty hc).1, marks_setPhase hr] at hstop
    refine absurd (Or.inr ⟨?_, hi⟩) hstop
    rintro rfl
    obtain ⟨s, hs, -, hactive⟩ := hi
    obtain rfl : r = s := Option.some.inj (hr.symm.trans hs)
    rw [hp] at hactive
    cases hactive
  | @finish j r b result hr hp =>
    rw [Populates, Marks.of_readers (finish_eq c j r b result).1, marks_setPhase hr] at hstop
    obtain rfl : i = j := by
      by_contra hne
      exact hstop (Or.inr ⟨hne, hi⟩)
    have hcell := h.guarded.cell_of_populates hi
    obtain ⟨s, hs, rfl, hactive⟩ := hi
    obtain rfl : r = s := Option.some.inj (hr.symm.trans hs)
    rw [hp] at hactive
    obtain rfl : b = a := Option.some.inj hactive
    rw [cells_finish, if_pos rfl, result?, (finish_eq c i r b result).1,
      getElem?_setPhase_self hr]
    cases result with
    | ok items => exact Or.inl ⟨items, rfl, rfl⟩
    | error error =>
      refine Or.inr ⟨?_, ?_⟩
      · simp only [cellAfter, hcell]
      · intro listing hlisting
        cases hlisting
  | @fail j r b children next error hr hp _ =>
    have hkept : (c.abandon children).readers[j]? = some r :=
      h.linked.kept hr (by rw [hp]; rfl)
    rw [Populates, marks_setPhase hkept] at hstop
    by_cases hij : i = j
    · -- the reader that goes on with the error still fills its collection
      subst hij
      obtain ⟨s, hs, hkey, hactive⟩ := hi
      obtain rfl : r = s := Option.some.inj (hr.symm.trans hs)
      rw [hp] at hactive
      exact absurd (Or.inl ⟨rfl, hkey, hactive⟩) hstop
    · have hgone : c.GoneAt children i := by
        by_contra hnot
        exact hstop (Or.inr ⟨hij, populates_abandon.mpr ⟨hi, hnot⟩⟩)
      obtain ⟨hcell, hresult⟩ := h.emptied hi hgone
      refine Or.inr ⟨hcell, fun listing hlisting => ?_⟩
      rw [result?, getElem?_setPhase_ne (Ne.symm hij)] at hlisting
      rw [result?] at hresult
      rw [hresult] at hlisting
      cases hlisting
  | @giveUp j r hr ha =>
    have hgone : c.GoneAt [j] i := by
      by_contra hkept
      exact hstop (populates_abandon.mpr ⟨hi, hkept⟩)
    obtain ⟨hcell, hresult⟩ := h.emptied hi hgone
    refine Or.inr ⟨hcell, fun listing hlisting => ?_⟩
    rw [hresult] at hlisting
    cases hlisting

/-! ## Safety of every run -/

/-- What holds of the collections in a configuration `c`, and from it on. -/
structure Safe (family : Family κ ι) (c : Config κ ι) : Prop where
  /-- At most one reader fills a collection, and with one attempt. -/
  alone : ∀ {i j : Nat} {key : κ} {a b : Nat}, c.Populates i key a → c.Populates j key b →
    i = j ∧ a = b
  /-- A collection says that it is being filled exactly when a reader fills it. -/
  populating : ∀ {key : κ} {a : Nat},
    (c.cells key).state = .populating a ↔ ∃ i, c.Populates i key a
  /-- A list is published exactly when the collection is filled with it. -/
  published : ∀ {key : κ} {listing : Listing ι},
    (c.cells key).published = some listing ↔ (c.cells key).state = .populated listing
  /-- Once filled, a collection never changes again. Later reads answer the same list, and neither
  begin an attempt nor send anything. -/
  settled : ∀ {key : κ} {listing : Listing ι}, (c.cells key).state = .populated listing →
    ∀ later : List (Event κ), Settled c (later.foldl (step family) c) key listing
  /-- A reader of a filled collection has its answer after two turns, unless it is given up. -/
  answered : ∀ {key : κ} {listing : Listing ι} {i : Nat} {r : Reader κ ι},
    (c.cells key).state = .populated listing → c.readers[i]? = some r → r.key = key →
    r.phase.isOver = false → ∀ later : List (Event κ), 2 ≤ turns i later →
    ∃ s, (later.foldl (step family) c).readers[i]? = some s ∧
      (s.phase = .finished none (.ok listing) ∨ ∃ own, s.phase = .abandoned own)
  /-- However an attempt stops, it leaves its whole list behind or an empty collection. -/
  stopped : ∀ {event : Event κ} {i a : Nat} {key : κ}, c.Populates i key a →
    ¬ (c.step family event).Populates i key a →
    (∃ items, (c.step family event).cells key = ⟨.populated ⟨a, items⟩, some ⟨a, items⟩⟩ ∧
      (c.step family event).result? i = some (.ok ⟨a, items⟩)) ∨
    ((c.step family event).cells key = ⟨.empty, none⟩ ∧
      ∀ listing, (c.step family event).result? i ≠ some (.ok listing))
  /-- The next reader of an empty collection starts from scratch, with an attempt that is new. -/
  retried : ∀ {i : Nat} {r : Reader κ ι}, (c.cells r.key).state = .empty →
    c.readers[i]? = some r → r.phase = .entering →
    (c.advance family i).readers[i]? =
        some { r with phase := .working c.attempts.length (family.program r.key) } ∧
      (c.advance family i).attempts = c.attempts ++ [r.key] ∧
      ∀ j key, ¬ c.Ran j key c.attempts.length

/-- A collection that is filled stays filled, with the same list. -/
theorem Coherent.settled (h : Coherent c) (hs : (c.cells key).state = .populated listing)
    (later : List (Event κ)) : Settled c (later.foldl (step family) c) key listing :=
  h.foldl_induction (P := fun d => Settled c d key listing)
    (fun _ _ hd hsettled ht => hsettled.transition hd ht) later (.refl h hs)

/-- A reader of a filled collection answers the list in two turns, unless it is given up. -/
theorem Coherent.answered (h : Coherent c) (hs : (c.cells key).state = .populated listing)
    (hr : c.readers[i]? = some r) (hkey : r.key = key) (hlive : r.phase.isOver = false)
    {later : List (Event κ)} (hturns : 2 ≤ turns i later) :
    ∃ s, (later.foldl (step family) c).readers[i]? = some s ∧
      (s.phase = .finished none (.ok listing) ∨ ∃ own, s.phase = .abandoned own) := by
  obtain ⟨s, hlast, hskey, hpace⟩ := pace_foldl later h hs hr hkey
  refine ⟨s, hlast, ?_⟩
  have hsettled : Settled c (later.foldl (step family) c) key listing := h.settled hs later
  have hidle := (h.foldl family later).idle hsettled.state hlast hskey
  have hle : r.phase.pace ≤ 2 := by
    cases r.phase <;> simp [Phase.pace]
  have hnone : s.phase.pace = 0 := by omega
  cases hp : s.phase with
  | finished own result =>
    have hc : c.result? i = none := by
      cases hresult : c.result? i with
      | none => rfl
      | some result =>
        rw [isOver_of_result? hresult hr] at hlive
        cases hlive
    rw [← hp]
    refine Or.inl (hsettled.answers hlast hskey hc ?_)
    rw [result?, hlast, Option.bind_some, hp]
    rfl
  | abandoned own => exact Or.inr ⟨own, rfl⟩
  | entering => rw [hp] at hnone; cases hnone
  | waiting a => rw [hp] at hnone; cases hnone
  | _ => rw [hp] at hidle; cases hidle

/-- A reader that looks at an empty collection begins to fill it. -/
theorem Coherent.advance_entering (h : Coherent c) (family : Family κ ι)
    (hempty : (c.cells r.key).state = .empty) (hr : c.readers[i]? = some r)
    (hp : r.phase = .entering) :
    (c.advance family i).readers[i]? =
        some { r with phase := .working c.attempts.length (family.program r.key) } ∧
      (c.advance family i).attempts = c.attempts ++ [r.key] := by
  have hcell := h.guarded.cell_of_empty hempty
  have he : c.advance family i = c.enter family i r := by
    simp only [advance, hr, hp]
  obtain ⟨hreaders, hattempts, -, -⟩ := @enter_of_empty κ ι _ _ family c i r hcell
  rw [he, hreaders]
  exact ⟨getElem?_setPhase_self hr _, hattempts⟩

/-- Every run is safe, whatever the collections are filled by. -/
theorem run_safe (family : Family κ ι) (events : List (Event κ)) :
    Safe family (run family events) := by
  have h := Coherent.run family events
  refine ⟨h.guarded.alone, h.guarded.populating, h.guarded.published,
    fun hs later => h.settled hs later,
    fun hs hr hkey hlive later hturns => h.answered hs hr hkey hlive hturns, ?_, ?_⟩
  · intro event i a key hi hstop
    exact (Transition.of_step family _ event).stopped h hi hstop
  · intro i r hempty hr hp
    obtain ⟨hreader, hattempts⟩ := h.advance_entering family hempty hr hp
    exact ⟨hreader, hattempts, fun j key => h.guarded.fresh⟩

end Config

end CubeClient.Deferred
