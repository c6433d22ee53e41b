import CubeClient.Proofs.Deferred.Ancestry

/-!
# Who fills a collection

The state of a collection and the phases of its readers say the same thing twice: a collection is
being filled exactly while one reader of it has an attempt under way. `Guarded` states this with the
running attempts and the published lists, and every transition keeps it: a shift does not touch it,
beginning an attempt adds one entry on each side, and whatever ends attempts (`Guarded.retire`)
removes them on both.
-/

namespace CubeClient.Deferred

namespace Config

variable {κ ι : Type} [Named ι]

/-! ## Readers and their attempts -/

/-- A reader of a collection whose phase says something about an attempt. -/
def Marks (f : Phase κ ι → Option Nat) (c : Config κ ι) (i : Nat) (key : κ) (a : Nat) : Prop :=
  ∃ r, c.readers[i]? = some r ∧ r.key = key ∧ f r.phase = some a

/-- A reader that fills a collection. -/
abbrev Populates (c : Config κ ι) (i : Nat) (key : κ) (a : Nat) : Prop :=
  Marks Phase.active? c i key a

/-- The reader whose attempt it is or was. -/
abbrev Ran (c : Config κ ι) (i : Nat) (key : κ) (a : Nat) : Prop :=
  Marks Phase.own? c i key a

variable {family : Family κ ι} {c d : Config κ ι} {f : Phase κ ι → Option Nat} {i j a b : Nat}
  {key key' : κ} {r s : Reader κ ι}

theorem Populates.ran (h : c.Populates i key a) : c.Ran i key a := by
  obtain ⟨r, hr, hkey, ha⟩ := h
  exact ⟨r, hr, hkey, Phase.own?_of_active? ha⟩

theorem Marks.of_readers (h : d.readers = c.readers) :
    Marks f d j key a ↔ Marks f c j key a := by
  unfold Marks
  rw [h]

/-- Readers that are new have no attempts. -/
theorem Marks.of_append {new : List (Reader κ ι)} (h : d.readers = c.readers ++ new)
    (hnew : ∀ s ∈ new, f s.phase = none) : Marks f d j key a ↔ Marks f c j key a := by
  unfold Marks
  rw [h]
  constructor
  · rintro ⟨s, hs, hkey, ha⟩
    rcases Nat.lt_or_ge j c.readers.length with hj | hj
    · rw [List.getElem?_append_left hj] at hs
      exact ⟨s, hs, hkey, ha⟩
    · rw [List.getElem?_append_right hj] at hs
      rw [hnew s (List.mem_of_getElem? hs)] at ha
      cases ha
  · rintro ⟨s, hs, hkey, ha⟩
    refine ⟨s, ?_, hkey, ha⟩
    rw [List.getElem?_append_left (List.getElem?_eq_some_iff.mp hs).1, hs]

/-- Moving a reader does not change what the others say. -/
theorem marks_setPhase (hr : c.readers[i]? = some r) (phase : Phase κ ι) :
    Marks f (c.setPhase i phase) j key a ↔
      (j = i ∧ r.key = key ∧ f phase = some a) ∨ (j ≠ i ∧ Marks f c j key a) := by
  by_cases hij : i = j
  · subst hij
    constructor
    · rintro ⟨s, hs, hkey, ha⟩
      rw [getElem?_setPhase_self hr] at hs
      obtain rfl := Option.some.inj hs
      exact Or.inl ⟨rfl, hkey, ha⟩
    · rintro (⟨-, hkey, ha⟩ | ⟨hne, -⟩)
      · exact ⟨_, getElem?_setPhase_self hr phase, hkey, ha⟩
      · exact absurd rfl hne
  · unfold Marks
    rw [getElem?_setPhase_ne hij]
    simp [Ne.symm hij]

/-- A move that says the same about attempts changes nothing. -/
theorem marks_setPhase_same (hr : c.readers[i]? = some r) {phase : Phase κ ι}
    (hsame : f phase = f r.phase) :
    Marks f (c.setPhase i phase) j key a ↔ Marks f c j key a := by
  rw [marks_setPhase hr, hsame]
  constructor
  · rintro (⟨rfl, hkey, ha⟩ | ⟨-, hj⟩)
    · exact ⟨r, hr, hkey, ha⟩
    · exact hj
  · rintro ⟨s, hs, hkey, ha⟩
    by_cases hji : j = i
    · subst hji
      obtain rfl : r = s := Option.some.inj (hr.symm.trans hs)
      exact Or.inl ⟨rfl, hkey, ha⟩
    · exact Or.inr ⟨hji, s, hs, hkey, ha⟩

theorem marks_shifted (hr : c.readers[i]? = some r) {phase : Phase κ ι}
    {new : List (Reader κ ι)} {messages : List Sent} (hsame : f phase = f r.phase)
    (hnew : ∀ s ∈ new, f s.phase = none) :
    Marks f (c.shifted i phase new messages) j key a ↔ Marks f c j key a :=
  (Marks.of_append rfl hnew).trans (marks_setPhase_same hr hsame)

theorem Shift.new_entering {phase : Phase κ ι} {new : List (Reader κ ι)} {messages : List Sent}
    (h : Shift family c i r phase new messages) : ∀ s ∈ new, s.phase = .entering := by
  intro s hs
  obtain ⟨n, hn⟩ := List.mem_iff_getElem?.mp hs
  cases h with
  | read => exact (getElem?_childReaders hn).2.2.1
  | readAll => exact (getElem?_childReaders hn).2.2.1
  | _ => cases hs

/-- A shift neither begins an attempt nor ends one. -/
theorem Shift.active?_eq {phase : Phase κ ι} {new : List (Reader κ ι)} {messages : List Sent}
    (h : Shift family c i r phase new messages) :
    phase.active? = r.phase.active? ∧ phase.own? = r.phase.own? := by
  cases h <;> rename r.phase = _ => hp <;> rw [hp] <;> exact ⟨rfl, rfl⟩

/-- A shift begins no attempt and ends none. -/
theorem Shift.populates_iff {phase : Phase κ ι} {new : List (Reader κ ι)} {messages : List Sent}
    (hr : c.readers[i]? = some r) (h : Shift family c i r phase new messages) :
    (c.shifted i phase new messages).Populates j key a ↔ c.Populates j key a :=
  marks_shifted hr h.active?_eq.1 fun s hs => by rw [h.new_entering s hs]; rfl

theorem Shift.ran_iff {phase : Phase κ ι} {new : List (Reader κ ι)} {messages : List Sent}
    (hr : c.readers[i]? = some r) (h : Shift family c i r phase new messages) :
    (c.shifted i phase new messages).Ran j key a ↔ c.Ran j key a :=
  marks_shifted hr h.active?_eq.2 fun s hs => by rw [h.new_entering s hs]; rfl

/-! ## The invariant -/

/-- Collections, attempts and readers agree about what is being filled, and by whom. -/
structure Guarded (c : Config κ ι) : Prop where
  published : ∀ {key : κ} {listing : Listing ι},
    (c.cells key).published = some listing ↔ (c.cells key).state = .populated listing
  populating : ∀ {key : κ} {a : Nat},
    (c.cells key).state = .populating a ↔ ∃ i, c.Populates i key a
  running : ∀ {a : Nat}, a ∈ c.running ↔ ∃ i key, c.Populates i key a
  runner : ∀ {key : κ} {a : Nat}, c.attempts[a]? = some key ↔ ∃ i, c.Ran i key a
  single : ∀ {i j : Nat} {key key' : κ} {a : Nat}, c.Ran i key a → c.Ran j key' a → i = j

namespace Guarded

theorem initial : Guarded (Config.initial : Config κ ι) where
  published := by simp [Config.initial]
  populating := by simp [Config.initial, Marks]
  running := by simp [Config.initial, Marks]
  runner := by simp [Config.initial, Marks]
  single h := by obtain ⟨r, hr, -⟩ := h; cases hr

/-- One collection is filled by one reader at a time. -/
theorem alone (h : Guarded c) (hi : c.Populates i key a) (hj : c.Populates j key b) :
    i = j ∧ a = b := by
  have ha := h.populating.mpr ⟨i, hi⟩
  have hb := h.populating.mpr ⟨j, hj⟩
  obtain rfl : a = b := CellState.populating.inj (ha.symm.trans hb)
  exact ⟨h.single hi.ran hj.ran, rfl⟩

/-- The next attempt has a number that nobody has had. -/
theorem fresh (h : Guarded c) : ¬ c.Ran j key c.attempts.length := by
  intro hj
  have := h.runner.mpr ⟨j, hj⟩
  rw [List.getElem?_eq_none (Nat.le_refl _)] at this
  cases this

/-- A collection that is not filled and not being filled has nothing to show. -/
theorem cell_of_empty (h : Guarded c) (hs : (c.cells key).state = .empty) :
    c.cells key = ⟨.empty, none⟩ := by
  rcases hcell : c.cells key with ⟨state, published⟩
  rw [hcell] at hs
  cases hs
  cases published with
  | none => rfl
  | some listing =>
    have := h.published.mp (by rw [hcell])
    rw [hcell] at this
    cases this

/-- A collection that is being filled has nothing to show. -/
theorem cell_of_populates (h : Guarded c) (hi : c.Populates i key a) :
    c.cells key = ⟨.populating a, none⟩ := by
  have hs := h.populating.mpr ⟨i, hi⟩
  rcases hcell : c.cells key with ⟨state, published⟩
  rw [hcell] at hs
  cases hs
  cases published with
  | none => rfl
  | some listing =>
    have := h.published.mp (by rw [hcell])
    rw [hcell] at this
    cases this

/-- What does not touch cells, attempts and what readers say about them keeps the invariant. -/
theorem congr (h : Guarded c) (hc : d.cells = c.cells) (ha : d.attempts = c.attempts)
    (hu : d.running = c.running)
    (hp : ∀ j key a, d.Populates j key a ↔ c.Populates j key a)
    (hr : ∀ j key a, d.Ran j key a ↔ c.Ran j key a) : Guarded d where
  published := by rw [hc]; exact h.published
  populating := by simp only [hc, hp]; exact h.populating
  running := by simp only [hu, hp]; exact h.running
  runner := by simp only [ha, hr]; exact h.runner
  single hi hj := h.single ((hr _ _ _).mp hi) ((hr _ _ _).mp hj)

/-- Some attempts end: their collections are no longer being filled, and nobody else's is
touched. -/
theorem retire (h : Guarded c) (gone : Nat → Prop) (ha : d.attempts = c.attempts)
    (hgone : ∀ j key a, c.Populates j key a → gone j →
      (∀ b, (d.cells key).state ≠ .populating b) ∧
        ∀ listing, (d.cells key).published = some listing ↔
          (d.cells key).state = .populated listing)
    (hkept : ∀ key, (∀ j a, c.Populates j key a → ¬ gone j) → d.cells key = c.cells key)
    (hu : ∀ a, a ∈ d.running ↔ a ∈ c.running ∧ ∀ j key, c.Populates j key a → ¬ gone j)
    (hp : ∀ j key a, d.Populates j key a ↔ c.Populates j key a ∧ ¬ gone j)
    (hr : ∀ j key a, d.Ran j key a ↔ c.Ran j key a) : Guarded d := by
  -- the cell of a collection is either that of a gone reader or as it was
  have hcell : ∀ key, (∃ j a, c.Populates j key a ∧ gone j) ∨
      (d.cells key = c.cells key ∧ ∀ j a, c.Populates j key a → ¬ gone j) := by
    intro key
    by_cases hex : ∃ j a, c.Populates j key a ∧ gone j
    · exact Or.inl hex
    · have hnone : ∀ j a, c.Populates j key a → ¬ gone j := fun j a hj hg => hex ⟨j, a, hj, hg⟩
      exact Or.inr ⟨hkept key hnone, hnone⟩
  refine ⟨?_, ?_, ?_, ?_, ?_⟩
  · intro key listing
    rcases hcell key with ⟨j, a, hj, hg⟩ | ⟨heq, -⟩
    · exact (hgone j key a hj hg).2 listing
    · rw [heq]
      exact h.published
  · intro key b
    rcases hcell key with ⟨j, a, hj, hg⟩ | ⟨heq, hnone⟩
    · refine ⟨fun hs => absurd hs ((hgone j key a hj hg).1 b), ?_⟩
      rintro ⟨k, hk⟩
      obtain ⟨hk, hkg⟩ := (hp k key b).mp hk
      obtain ⟨rfl, -⟩ := h.alone hj hk
      exact absurd hg hkg
    · rw [heq, h.populating]
      constructor
      · rintro ⟨k, hk⟩
        exact ⟨k, (hp k key b).mpr ⟨hk, hnone k b hk⟩⟩
      · rintro ⟨k, hk⟩
        exact ⟨k, ((hp k key b).mp hk).1⟩
  · intro b
    rw [hu, h.running]
    constructor
    · rintro ⟨⟨k, key, hk⟩, hnone⟩
      exact ⟨k, key, (hp k key b).mpr ⟨hk, hnone k key hk⟩⟩
    · rintro ⟨k, key, hk⟩
      obtain ⟨hk, hkg⟩ := (hp k key b).mp hk
      refine ⟨⟨k, key, hk⟩, fun j key' hj => ?_⟩
      rw [h.single hj.ran hk.ran]
      exact hkg
  · intro key b
    simp only [ha, hr]
    exact h.runner
  · intro k l key key' b hk hl
    exact h.single ((hr _ _ _).mp hk) ((hr _ _ _).mp hl)

/-- A reader that goes on with its attempt keeps the invariant. -/
theorem setPhase (h : Guarded c) (hr : c.readers[i]? = some r) {phase : Phase κ ι}
    (hactive : phase.active? = r.phase.active?) (hown : phase.own? = r.phase.own?) :
    Guarded (c.setPhase i phase) := by
  refine h.congr rfl rfl rfl ?_ ?_
  · exact fun j key b => marks_setPhase_same hr hactive
  · exact fun j key b => marks_setPhase_same hr hown

end Guarded

/-! ## Every transition keeps it -/

variable [DecidableEq κ]

/-- Readers that are given up have still made their attempts. -/
theorem ran_abandon {roots : List Nat} : (c.abandon roots).Ran j key a ↔ c.Ran j key a := by
  unfold Ran Marks
  rw [getElem?_abandon]
  constructor
  · rintro ⟨s, hs, hkey, ha⟩
    obtain ⟨r, hr, rfl⟩ := Option.map_eq_some_iff.mp hs
    rw [own?_dropped] at ha
    exact ⟨r, hr, by simpa using hkey, ha⟩
  · rintro ⟨r, hr, hkey, ha⟩
    refine ⟨dropped roots j r, by rw [hr]; rfl, by simpa using hkey, ?_⟩
    rw [own?_dropped, ha]

/-- Whether a reader is among those that are given up. -/
def GoneAt (c : Config κ ι) (roots : List Nat) (j : Nat) : Prop :=
  ∃ r, c.readers[j]? = some r ∧ isGone roots j r = true

/-- Who is given up fills nothing any more; the others go on. -/
theorem populates_abandon {roots : List Nat} :
    (c.abandon roots).Populates j key a ↔ c.Populates j key a ∧ ¬ c.GoneAt roots j := by
  constructor
  · rintro ⟨s, hs, hkey, ha⟩
    obtain ⟨hr, hunder⟩ := not_isUnder_of_abandon hs (Phase.isOver_of_active? ha)
    refine ⟨⟨s, hr, hkey, ha⟩, ?_⟩
    rintro ⟨t, ht, hgone⟩
    obtain rfl : t = s := Option.some.inj (ht.symm.trans hr)
    simp [isGone, hunder] at hgone
  · rintro ⟨⟨r, hr, hkey, ha⟩, hkept⟩
    refine ⟨r, ?_, hkey, ha⟩
    rw [getElem?_abandon, hr, Option.map_some, dropped_of_not_isGone]
    exact Bool.eq_false_iff.mpr fun hgone => hkept ⟨r, hr, hgone⟩

namespace Guarded

/-- A reader may begin an attempt where the collection is empty. -/
theorem fill {family : Family κ ι} (h : Guarded c) (hr : c.readers[i]? = some r)
    (hp : r.phase = .entering) (hc : c.cells r.key = ⟨.empty, none⟩) :
    Guarded (c.enter family i r) := by
  obtain ⟨hreaders, hattempts, hrunning, -⟩ := @enter_of_empty κ ι _ _ family c i r hc
  have hmarks : ∀ (f : Phase κ ι → Option Nat) (j : Nat) (key : κ) (a : Nat),
      f (.working c.attempts.length (family.program r.key)) = some c.attempts.length →
      f .entering = none →
      (Marks f (c.enter family i r) j key a ↔
        (j = i ∧ r.key = key ∧ c.attempts.length = a) ∨ Marks f c j key a) := by
    intro f j key a hnew hold
    rw [Marks.of_readers hreaders, marks_setPhase hr, hnew, Option.some.injEq]
    refine or_congr_right (and_iff_right_of_imp ?_)
    rintro ⟨s, hs, -, ha⟩ rfl
    obtain rfl : r = s := Option.some.inj (hr.symm.trans hs)
    rw [hp, hold] at ha
    cases ha
  have hpop := fun j key a => hmarks Phase.active? j key a rfl rfl
  have hran := fun j key a => hmarks Phase.own? j key a rfl rfl
  have hfresh : ∀ j key, ¬ c.Ran j key c.attempts.length := fun j key => h.fresh
  have hidle : ∀ j a, ¬ c.Populates j r.key a := by
    intro j a hj
    have := h.cell_of_populates hj
    rw [hc] at this
    cases this
  refine ⟨?_, ?_, ?_, ?_, ?_⟩
  · intro key listing
    rw [cells_enter hc]
    split
    · constructor <;> (intro hno; cases hno)
    · exact h.published
  · intro key a
    simp only [cells_enter hc, hpop]
    split
    · rename_i hkey
      subst hkey
      simp only [CellState.populating.injEq]
      constructor
      · rintro rfl
        exact ⟨i, Or.inl ⟨rfl, trivial, rfl⟩⟩
      · rintro ⟨j, ⟨-, -, ha⟩ | hj⟩
        · exact ha
        · exact absurd hj (hidle j a)
    · rename_i hkey
      rw [h.populating]
      refine exists_congr fun j => (or_iff_right ?_).symm
      rintro ⟨-, rfl, -⟩
      exact hkey rfl
  · intro a
    simp only [hrunning, List.mem_cons, hpop, h.running]
    constructor
    · rintro (rfl | ⟨j, key, hj⟩)
      · exact ⟨i, r.key, Or.inl ⟨rfl, rfl, rfl⟩⟩
      · exact ⟨j, key, Or.inr hj⟩
    · rintro ⟨j, key, ⟨-, -, rfl⟩ | hj⟩
      · exact Or.inl rfl
      · exact Or.inr ⟨j, key, hj⟩
  · intro key a
    simp only [hattempts, hran]
    rcases Nat.lt_trichotomy a c.attempts.length with ha | rfl | ha
    · rw [List.getElem?_append_left ha, h.runner]
      refine exists_congr fun j => (or_iff_right ?_).symm
      rintro ⟨-, -, rfl⟩
      exact Nat.lt_irrefl _ ha
    · rw [List.getElem?_concat_length, Option.some.injEq]
      constructor
      · rintro rfl
        exact ⟨i, Or.inl ⟨rfl, rfl, rfl⟩⟩
      · rintro ⟨j, ⟨-, hkey, -⟩ | hj⟩
        · exact hkey
        · exact absurd hj (hfresh j key)
    · rw [List.getElem?_eq_none (by simp only [List.length_append, List.length_singleton]; omega)]
      refine ⟨fun h => (by cases h), ?_⟩
      rintro ⟨j, ⟨-, -, rfl⟩ | hj⟩
      · exact absurd ha (Nat.lt_irrefl _)
      · have := h.runner.mpr ⟨j, hj⟩
        rw [List.getElem?_eq_none (Nat.le_of_lt ha)] at this
        cases this
  · intro j k key key' a hj hk
    rcases (hran j key a).mp hj with ⟨rfl, -, rfl⟩ | hj
    · rcases (hran k key' _).mp hk with ⟨rfl, -, -⟩ | hk
      · rfl
      · exact absurd hk (hfresh k key')
    · rcases (hran k key' _).mp hk with ⟨-, -, rfl⟩ | hk
      · exact absurd hj (hfresh j key)
      · exact h.single hj hk

/-- A reader may end the attempt that it is at. -/
theorem finish (h : Guarded c) {result : Except ClientError (NamedList ι)}
    (hr : c.readers[i]? = some r) (hp : r.phase = .working a (.done result)) :
    Guarded (c.finish i r a result) := by
  obtain ⟨hreaders, hattempts, hrunning, -⟩ := finish_eq c i r a result
  have hi : c.Populates i r.key a := ⟨r, hr, rfl, by rw [hp]; rfl⟩
  refine h.retire (· = i) hattempts ?_ ?_ ?_ ?_ ?_
  · rintro j key b hj rfl
    obtain ⟨s, hs, hkey, -⟩ := hj
    obtain rfl : r = s := Option.some.inj (hr.symm.trans hs)
    rw [cells_finish, if_pos hkey.symm]
    cases result with
    | ok items =>
      refine ⟨fun b hb => (by cases hb), fun listing => ?_⟩
      simp [cellAfter]
    | error error =>
      simp [cellAfter, h.cell_of_populates hi]
  · intro key hnone
    rw [cells_finish, if_neg]
    rintro rfl
    exact hnone i a hi rfl
  · intro b
    rw [hrunning, List.mem_filter, bne_iff_ne]
    refine and_congr_right fun hb => ⟨?_, ?_⟩
    · rintro hne j key hj rfl
      obtain ⟨s, hs, -, hactive⟩ := hj
      obtain rfl : r = s := Option.some.inj (hr.symm.trans hs)
      rw [hp] at hactive
      exact hne (Option.some.inj hactive).symm
    · rintro hnone rfl
      exact hnone i r.key hi rfl
  · intro j key b
    rw [Populates, Marks.of_readers hreaders, marks_setPhase hr]
    simp [Phase.active?, and_comm]
  · intro j key b
    exact (Marks.of_readers hreaders).trans (marks_setPhase_same hr (by rw [hp]; rfl))

theorem abandon (h : Guarded c) (roots : List Nat) : Guarded (c.abandon roots) := by
  refine h.retire (c.GoneAt roots) (attempts_abandon c roots) ?_ ?_ ?_ ?_ ?_
  · rintro j key b hj ⟨s, hs, hgone⟩
    have hcell := h.cell_of_populates hj
    obtain ⟨r, hr, rfl, hactive⟩ := hj
    obtain rfl : r = s := Option.some.inj (hr.symm.trans hs)
    rw [cells_abandon_of_gone hr hgone hactive, hcell]
    exact ⟨fun b hb => (by cases hb), fun listing => by simp⟩
  · intro key hnone
    refine cells_abandon_of_kept fun j s hs hgone hkey => ?_
    cases hactive : s.phase.active? with
    | none => rfl
    | some b => exact absurd ⟨s, hs, hgone⟩ (hnone j b ⟨s, hs, hkey, hactive⟩)
  · intro b
    rw [mem_running_abandon]
    refine and_congr_right fun _ => ⟨?_, ?_⟩
    · rintro hall j key ⟨s, hs, -, hactive⟩ ⟨t, ht, hgone⟩
      obtain rfl : s = t := Option.some.inj (hs.symm.trans ht)
      exact hall j s hs hgone hactive
    · intro hnone j s hs hgone hactive
      exact hnone j s.key ⟨s, hs, rfl, hactive⟩ ⟨s, hs, hgone⟩
  · exact fun j key b => populates_abandon
  · exact fun j key b => ran_abandon

/-- Every step leaves attempts and collections in agreement. -/
theorem transition {family : Family κ ι} (h : Guarded c) (hl : Linked c)
    (ht : Transition family c d) : Guarded d := by
  cases ht with
  | outside hc hreaders ha hu =>
    exact h.congr hc ha hu (fun j key b => Marks.of_readers hreaders)
      (fun j key b => Marks.of_readers hreaders)
  | start key =>
    refine h.congr rfl rfl rfl ?_ ?_
    · intro j key' b
      refine Marks.of_append rfl fun s hs => ?_
      rw [List.mem_singleton.mp hs]
      rfl
    · intro j key' b
      refine Marks.of_append rfl fun s hs => ?_
      rw [List.mem_singleton.mp hs]
      rfl
  | shift hr hshift =>
    exact h.congr rfl rfl rfl (fun j key b => hshift.populates_iff hr)
      (fun j key b => hshift.ran_iff hr)
  | fill hr hp hc => exact h.fill hr hp hc
  | finish hr hp => exact h.finish hr hp
  | @fail i r a children next error hr hp _ =>
    have hkept := hl.kept hr (by rw [hp])
    exact (h.abandon children).setPhase hkept (by rw [hp]; rfl) (by rw [hp]; rfl)
  | giveUp => exact h.abandon _

end Guarded

end Config

end CubeClient.Deferred
