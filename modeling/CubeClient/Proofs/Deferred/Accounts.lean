import CubeClient.Proofs.Deferred.Answers
import CubeClient.Proofs.Deferred.Requests

/-!
# Accounts of a collection

Every attempt on a collection is the own attempt of exactly one reader, so the attempts can be
counted by what has become of those readers (`length_attemptsOf`). When all reads from outside have
answered, this says how many attempts there were: as many as it took to succeed, and never more than
reads.
-/

namespace CubeClient.Deferred

namespace Phase

variable {κ ι : Type} [Named ι]

/-- Whether the reader has answered the error of its own attempt. -/
def hasFailed : Phase κ ι → Bool
  | .finished (some _) (.error _) => true
  | _ => false

/-- Whether the reader has answered the list of its own attempt. -/
def hasBuilt : Phase κ ι → Bool
  | .finished (some _) (.ok _) => true
  | _ => false

/-- Whether the reader was given up while it filled its collection. -/
def wasCut : Phase κ ι → Bool
  | .abandoned (some _) => true
  | _ => false

/-- A reader with an attempt of its own has failed, has built the list, was cut short or is at
it. -/
theorem own?_kinds (phase : Phase κ ι) :
    (if phase.own?.isSome = true then 1 else 0) =
      (if phase.hasFailed = true then 1 else 0) + (if phase.hasBuilt = true then 1 else 0) +
        (if phase.wasCut = true then 1 else 0) +
        (if phase.active?.isSome = true then 1 else 0) := by
  rcases phase with _ | _ | _ | _ | _ | _ | ⟨_ | _, _ | _⟩ | _ | _ <;> rfl

theorem hasBuilt_iff {phase : Phase κ ι} :
    phase.hasBuilt = true ↔ ∃ a listing, phase = .finished (some a) (.ok listing) := by
  constructor
  · intro h
    rcases phase with _ | _ | _ | _ | _ | _ | ⟨_ | a, error | listing⟩ | _
    case finished.some.ok => exact ⟨a, listing, rfl⟩
    all_goals cases h
  · rintro ⟨a, listing, rfl⟩
    rfl

end Phase

namespace CellState

variable {ι : Type} [Named ι]

/-- One if the collection is filled. -/
def filled : CellState ι → Nat
  | .populated _ => 1
  | _ => 0

/-- One if the collection is being filled. -/
def underWay : CellState ι → Nat
  | .populating _ => 1
  | _ => 0

end CellState

namespace Config

variable {κ ι : Type} [Named ι] [DecidableEq κ] {family : Family κ ι} {c d : Config κ ι}
  {i j a : Nat} {key : κ} {r s : Reader κ ι} {listing : Listing ι}

/-- The attempts on a collection, in the order in which they were begun. -/
def attemptsOf (c : Config κ ι) (key : κ) : List Nat :=
  (List.range c.attempts.length).filter fun a => decide (c.attempts[a]? = some key)

/-- How many readers of a collection are in a phase. -/
def countOf (c : Config κ ι) (key : κ) (p : Phase κ ι → Bool) : Nat :=
  c.readers.countP fun r => decide (r.key = key) && p r.phase

/-- How many reads of a collection were issued from outside its own population. -/
def readsOf (c : Config κ ι) (key : κ) : Nat :=
  c.readers.countP fun r => decide (r.key = key ∧ key ∉ r.within)

/-- How many attempts on a collection have sent something. -/
def requestsOf (c : Config κ ι) (key : κ) : Nat :=
  (c.attemptsOf key).countP fun a => !(c.messagesOf a).isEmpty

theorem mem_attemptsOf : a ∈ c.attemptsOf key ↔ c.attempts[a]? = some key := by
  rw [attemptsOf, List.mem_filter, List.mem_range, decide_eq_true_eq]
  exact and_iff_right_of_imp fun h => (List.getElem?_eq_some_iff.mp h).1

/-- Attempts are numbered in the order in which they were begun. -/
theorem pairwise_attemptsOf (c : Config κ ι) (key : κ) : (c.attemptsOf key).Pairwise (· < ·) :=
  List.pairwise_lt_range.filter _

theorem nodup_attemptsOf (c : Config κ ι) (key : κ) : (c.attemptsOf key).Nodup :=
  List.nodup_range.filter _

/-! ## Attempts and readers -/

/-- Attempts and readers of a collection are counted by each other. -/
theorem Guarded.length_attemptsOf (h : Guarded c) (key : κ) :
    (c.attemptsOf key).length = c.countOf key (·.own?.isSome) := by
  let own : Reader κ ι → Option Nat := fun r => if r.key = key then r.phase.own? else none
  have hown : ∀ {r : Reader κ ι} {a : Nat},
      own r = some a ↔ r.key = key ∧ r.phase.own? = some a := by
    intro r a
    simp only [own]
    split
    · rename_i hkey
      simp [hkey]
    · rename_i hkey
      simp [hkey]
  have hnodup : (c.readers.filterMap own).Nodup := by
    refine List.pairwise_filterMap.mpr (List.pairwise_iff_getElem.mpr ?_)
    rintro i j hi hj hlt a ha b hb rfl
    obtain ⟨-, ha⟩ := hown.mp ha
    obtain ⟨-, hb⟩ := hown.mp hb
    have heq := h.single ⟨_, List.getElem?_eq_getElem hi, rfl, ha⟩
      ⟨_, List.getElem?_eq_getElem hj, rfl, hb⟩
    exact absurd heq (Nat.ne_of_lt hlt)
  have hperm : (c.attemptsOf key).Perm (c.readers.filterMap own) := by
    refine (List.perm_ext_iff_of_nodup (nodup_attemptsOf c key) hnodup).mpr fun a => ?_
    rw [mem_attemptsOf, h.runner, List.mem_filterMap]
    constructor
    · rintro ⟨i, r, hr, hkey, ha⟩
      exact ⟨r, List.mem_of_getElem? hr, hown.mpr ⟨hkey, ha⟩⟩
    · rintro ⟨r, hr, ha⟩
      obtain ⟨i, hi⟩ := List.mem_iff_getElem?.mp hr
      exact ⟨i, r, hi, hown.mp ha⟩
  rw [hperm.length_eq, List.length_filterMap_eq_countP, countOf]
  refine List.countP_congr fun r _ => ?_
  simp only [own]
  split
  · rename_i hkey
    simp [hkey]
  · rename_i hkey
    simp [hkey]

/-- Readers with an attempt of their own are counted by what has become of it. -/
theorem countOf_own (c : Config κ ι) (key : κ) :
    c.countOf key (·.own?.isSome) = c.countOf key Phase.hasFailed + c.countOf key Phase.hasBuilt +
      c.countOf key Phase.wasCut + c.countOf key (·.active?.isSome) := by
  unfold countOf
  induction c.readers with
  | nil => rfl
  | cons r readers ih =>
    simp only [List.countP_cons, ih]
    by_cases hkey : r.key = key
    · have hkind := Phase.own?_kinds r.phase
      simp only [hkey, decide_true, Bool.true_and]
      omega
    · simp only [hkey, decide_false, Bool.false_and]
      rfl

/-- An item that is the only one to satisfy a condition is counted once. -/
theorem countP_eq_one_of_unique {α : Type} {p : α → Bool} :
    ∀ {items : List α} {i : Nat} {x : α}, items[i]? = some x → p x = true →
      (∀ j y, items[j]? = some y → p y = true → j = i) → items.countP p = 1
  | [], _, _, h, _, _ => by cases h
  | y :: items, i, x, h, hx, hunique => by
    rw [List.countP_cons]
    cases i with
    | zero =>
      obtain rfl := Option.some.inj h
      have hnone : items.countP p = 0 := by
        rw [List.countP_eq_zero]
        intro z hz hpz
        obtain ⟨j, hj⟩ := List.mem_iff_getElem?.mp hz
        have hlater : (y :: items)[j + 1]? = some z := by rw [List.getElem?_cons_succ, hj]
        exact absurd (hunique (j + 1) z hlater hpz) (Nat.succ_ne_zero j)
      rw [hnone, if_pos hx]
    | succ i =>
      have hy : ¬ p y = true := fun hy => absurd (hunique 0 y rfl hy) (Nat.succ_ne_zero i).symm
      have hrest : items.countP p = 1 := by
        refine countP_eq_one_of_unique h hx fun j z hj hz => ?_
        have hlater : (y :: items)[j + 1]? = some z := by rw [List.getElem?_cons_succ, hj]
        exact Nat.succ.inj (hunique (j + 1) z hlater hz)
      rw [hrest, if_neg hy]

theorem countOf_eq_one {p : Phase κ ι → Bool} (hr : c.readers[i]? = some r) (hkey : r.key = key)
    (hp : p r.phase = true)
    (hunique : ∀ (j : Nat) (s : Reader κ ι), c.readers[j]? = some s → s.key = key →
      p s.phase = true → j = i) :
    c.countOf key p = 1 := by
  refine countP_eq_one_of_unique hr (by simp [hkey, hp]) fun j s hs hps => ?_
  simp only [Bool.and_eq_true, decide_eq_true_eq] at hps
  exact hunique j s hs hps.1 hps.2

theorem countOf_eq_zero {p : Phase κ ι → Bool}
    (hnone : ∀ (j : Nat) (s : Reader κ ι), c.readers[j]? = some s → s.key = key →
      p s.phase = false) :
    c.countOf key p = 0 := by
  rw [countOf, List.countP_eq_zero]
  intro s hs hps
  simp only [Bool.and_eq_true, decide_eq_true_eq] at hps
  obtain ⟨j, hj⟩ := List.mem_iff_getElem?.mp hs
  rw [hnone j s hj hps.1] at hps
  cases hps.2

/-- At most one attempt builds the list, and it has if the collection is filled. -/
theorem Answered.countOf_hasBuilt (h : Answered c) (hc : Coherent c) (key : κ) :
    c.countOf key Phase.hasBuilt = (c.cells key).state.filled := by
  cases hs : (c.cells key).state with
  | populated listing =>
    obtain ⟨i, r, hr, hkey, hp⟩ := h.built hs
    refine countOf_eq_one hr hkey (by rw [hp]; rfl) fun j s hs' hkey' hbuilt => ?_
    obtain ⟨b, listing', hp'⟩ := Phase.hasBuilt_iff.mp hbuilt
    obtain ⟨hstate, hattempt⟩ := h.listed hs' hp'
    rw [hkey', hs] at hstate
    obtain rfl := CellState.populated.inj hstate
    obtain rfl := hattempt b rfl
    exact hc.guarded.single ⟨s, hs', rfl, by rw [hp']; rfl⟩ ⟨r, hr, rfl, by rw [hp]; rfl⟩
  | _ =>
    refine countOf_eq_zero fun j s hs' hkey' => ?_
    rw [Bool.eq_false_iff]
    intro hbuilt
    obtain ⟨b, listing', hp'⟩ := Phase.hasBuilt_iff.mp hbuilt
    have hstate := (h.listed hs' hp').1
    rw [hkey', hs] at hstate
    cases hstate

/-- A reader is at an attempt exactly if the collection is being filled. -/
theorem Guarded.countOf_active (h : Guarded c) (key : κ) :
    c.countOf key (·.active?.isSome) = (c.cells key).state.underWay := by
  cases hs : (c.cells key).state with
  | populating a =>
    obtain ⟨i, r, hr, hkey, ha⟩ := h.populating.mp hs
    refine countOf_eq_one hr hkey (by rw [ha]; rfl) fun j s hs' hkey' hactive => ?_
    obtain ⟨b, hb⟩ := Option.isSome_iff_exists.mp hactive
    exact (h.alone ⟨s, hs', hkey', hb⟩ ⟨r, hr, hkey, ha⟩).1
  | _ =>
    refine countOf_eq_zero fun j s hs' hkey' => ?_
    rw [Bool.eq_false_iff]
    intro hactive
    obtain ⟨b, hb⟩ := Option.isSome_iff_exists.mp hactive
    have hstate := h.populating.mpr ⟨j, s, hs', hkey', hb⟩
    rw [hs] at hstate
    cases hstate

/-- What has become of the attempts on a collection. -/
theorem Answered.length_attemptsOf (h : Answered c) (hc : Coherent c) (key : κ) :
    (c.attemptsOf key).length = c.countOf key Phase.hasFailed + c.countOf key Phase.wasCut +
      (c.cells key).state.filled + (c.cells key).state.underWay := by
  rw [hc.guarded.length_attemptsOf, countOf_own, h.countOf_hasBuilt hc, hc.guarded.countOf_active]
  omega

/-! ## When all reads have answered -/

/-- All reads of a collection that were issued from outside have answered; none was given up. -/
def AllAnswered (c : Config κ ι) (key : κ) : Prop :=
  ∀ (i : Nat) (r : Reader κ ι), c.readers[i]? = some r → r.key = key → key ∉ r.within →
    ∃ result, r.phase.result? = some result

/-- No read of a collection that was issued from outside its own population was given up. -/
def NoneGivenUp (c : Config κ ι) (key : κ) : Prop :=
  ∀ {i : Nat} {r : Reader κ ι}, c.readers[i]? = some r → r.key = key → key ∉ r.within →
    ∀ own, r.phase ≠ .abandoned own

omit [DecidableEq κ] in
/-- Reads that are over and were not given up have answered. -/
theorem NoneGivenUp.allAnswered (h : NoneGivenUp c key)
    (hover : ∀ {i : Nat} {r : Reader κ ι}, c.readers[i]? = some r → r.phase.isOver = true) :
    c.AllAnswered key := by
  intro i r hr hkey hout
  have hend := hover hr
  cases hp : r.phase with
  | finished own result => exact ⟨result, rfl⟩
  | abandoned own => exact absurd hp (h hr hkey hout own)
  | _ => rw [hp] at hend; cases hend

/-- How reads that have all answered share the attempts on their collection. -/
structure Shared (c : Config κ ι) (key : κ) : Prop where
  /-- If `outcome` says which attempts succeed, as far as they were made, then there were as many
  requests as it takes to succeed, but not more than reads. -/
  requests : ∀ outcome : Nat → Bool,
    (∀ j a, (c.attemptsOf key)[j]? = some a →
      (outcome j = true ↔ ∃ items, (c.cells key).state = .populated ⟨a, items⟩)) →
    (∀ k, outcome k = true → (∀ j < k, outcome j = false) →
      c.requestsOf key = min (k + 1) (c.readsOf key)) ∧
    ((∀ j < c.readsOf key, outcome j = false) → c.requestsOf key = c.readsOf key)
  /-- The error of a failed attempt is answered once, by the reader that made the attempt. -/
  errors : ∀ a ∈ c.attemptsOf key, (∀ items, (c.cells key).state ≠ .populated ⟨a, items⟩) →
    ∃! i : Nat, ∃ (r : Reader κ ι) (error : ClientError), c.readers[i]? = some r ∧ r.key = key ∧
      r.phase = .finished (some a) (.error error)
  /-- All other reads answer the list of the collection. -/
  lists : ∀ (i : Nat) (r : Reader κ ι), c.readers[i]? = some r → r.key = key → key ∉ r.within →
    (∃ a ∈ c.attemptsOf key, ∃ error, r.phase = .finished (some a) (.error error)) ∨
    ∃ own listing, r.phase = .finished own (.ok listing) ∧
      (c.cells key).state = .populated listing

namespace Answered

omit [DecidableEq κ] in
/-- Whoever made an attempt has answered its outcome. -/
theorem finished (h : Answered c) (hall : c.AllAnswered key) (hr : c.readers[i]? = some r)
    (hkey : r.key = key) (hown : r.phase.own? = some a) :
    ∃ result, r.phase = .finished (some a) result := by
  obtain ⟨result, hresult⟩ := hall i r hr hkey (hkey ▸ h.outside hr hown)
  cases hp : r.phase with
  | finished own result =>
    rw [hp] at hown
    cases hown
    exact ⟨result, rfl⟩
  | _ => rw [hp] at hresult; cases hresult

/-- The reader that made a failed attempt has answered its error, and nobody else has. -/
theorem errors (h : Answered c) (hc : Coherent c) (hall : c.AllAnswered key)
    (ha : a ∈ c.attemptsOf key)
    (hfailed : ∀ items, (c.cells key).state ≠ .populated ⟨a, items⟩) :
    ∃! i : Nat, ∃ (r : Reader κ ι) (error : ClientError), c.readers[i]? = some r ∧ r.key = key ∧
      r.phase = .finished (some a) (.error error) := by
  obtain ⟨i, r, hr, hkey, hown⟩ := hc.guarded.runner.mp (mem_attemptsOf.mp ha)
  obtain ⟨result, hp⟩ := h.finished hall hr hkey hown
  cases result with
  | ok listing =>
    obtain ⟨hstate, hattempt⟩ := h.listed hr hp
    rw [hkey] at hstate
    obtain rfl := hattempt a rfl
    exact absurd hstate (hfailed listing.items)
  | error error =>
    refine ⟨i, ⟨r, error, hr, hkey, hp⟩, ?_⟩
    rintro j ⟨s, error', hs, -, hp'⟩
    exact hc.guarded.single ⟨s, hs, rfl, by rw [hp']; rfl⟩ ⟨r, hr, rfl, by rw [hp]; rfl⟩

/-- Whoever has not answered the error of its own attempt has answered the list. -/
theorem lists (h : Answered c) (hc : Coherent c) (hall : c.AllAnswered key)
    (hr : c.readers[i]? = some r) (hkey : r.key = key) (hout : key ∉ r.within) :
    (∃ a ∈ c.attemptsOf key, ∃ error, r.phase = .finished (some a) (.error error)) ∨
    ∃ own listing, r.phase = .finished own (.ok listing) ∧
      (c.cells key).state = .populated listing := by
  obtain ⟨result, hresult⟩ := hall i r hr hkey hout
  cases hp : r.phase with
  | finished own result =>
    cases result with
    | ok listing => exact Or.inr ⟨own, listing, rfl, hkey ▸ (h.listed hr hp).1⟩
    | error error =>
      cases own with
      | none => exact absurd (hkey ▸ h.refused hr hp) hout
      | some a =>
        have hran : c.Ran i key a := ⟨r, hr, hkey, by rw [hp]; rfl⟩
        exact Or.inl ⟨a, mem_attemptsOf.mpr (hc.guarded.runner.mpr ⟨i, hran⟩), error, rfl⟩
  | _ => rw [hp] at hresult; cases hresult

/-- There are never more attempts than reads. -/
theorem attempts_le_reads (h : Answered c) (hc : Coherent c) :
    (c.attemptsOf key).length ≤ c.readsOf key := by
  rw [hc.guarded.length_attemptsOf]
  refine List.countP_mono_left fun r hr hp => ?_
  simp only [Bool.and_eq_true, decide_eq_true_eq] at hp ⊢
  obtain ⟨i, hi⟩ := List.mem_iff_getElem?.mp hr
  obtain ⟨a, ha⟩ := Option.isSome_iff_exists.mp hp.2
  exact ⟨hp.1, hp.1 ▸ h.outside hi ha⟩

/-- If nobody has filled the collection, everybody has tried. -/
theorem attempts_eq_reads (h : Answered c) (hc : Coherent c) (hall : c.AllAnswered key)
    (hs : ∀ listing, (c.cells key).state ≠ .populated listing) :
    (c.attemptsOf key).length = c.readsOf key := by
  rw [hc.guarded.length_attemptsOf]
  refine List.countP_congr fun r hr => ?_
  obtain ⟨i, hi⟩ := List.mem_iff_getElem?.mp hr
  simp only [Bool.and_eq_true, decide_eq_true_eq]
  constructor
  · rintro ⟨hkey, hown⟩
    obtain ⟨a, ha⟩ := Option.isSome_iff_exists.mp hown
    exact ⟨hkey, hkey ▸ h.outside hi ha⟩
  · rintro ⟨hkey, hout⟩
    refine ⟨hkey, ?_⟩
    rcases h.lists hc hall hi hkey hout with ⟨a, -, error, hp⟩ | ⟨own, listing, -, hs'⟩
    · rw [hp]
      rfl
    · exact absurd hs' (hs listing)

/-- The attempt that has filled the collection is the last one. -/
theorem last_attempt (h : Answered c) (hc : Coherent c)
    (hs : (c.cells key).state = .populated listing) :
    ∃ k, (c.attemptsOf key).length = k + 1 ∧ (c.attemptsOf key)[k]? = some listing.attempt := by
  obtain ⟨i, r, hr, hkey, hp⟩ := h.built hs
  have hran : c.Ran i key listing.attempt := ⟨r, hr, hkey, by rw [hp]; rfl⟩
  have hmem : listing.attempt ∈ c.attemptsOf key :=
    mem_attemptsOf.mpr (hc.guarded.runner.mpr ⟨i, hran⟩)
  obtain ⟨k, hk⟩ := List.mem_iff_getElem?.mp hmem
  obtain ⟨hlt, heq⟩ := List.getElem?_eq_some_iff.mp hk
  refine ⟨k, ?_, hk⟩
  by_contra hne
  -- an attempt after it would have a larger number
  have hlater : k + 1 < (c.attemptsOf key).length := by omega
  have horder := List.pairwise_iff_getElem.mp (pairwise_attemptsOf c key) k (k + 1) hlt hlater
    (Nat.lt_succ_self k)
  have hle := (h.last (mem_attemptsOf.mp (List.getElem_mem hlater))).2 listing hs
  omega

/-- If every attempt has sent its request, the requests are as many as it takes to succeed. -/
theorem shared (h : Answered c) (hc : Coherent c) (hall : c.AllAnswered key)
    (hasked : c.requestsOf key = (c.attemptsOf key).length) :
    Shared c key := by
  refine ⟨fun outcome hfollows => ?_, fun a ha => h.errors hc hall ha,
    fun i r hr hkey hout => h.lists hc hall hr hkey hout⟩
  have hle : (c.attemptsOf key).length ≤ c.readsOf key := h.attempts_le_reads hc
  rw [hasked]
  by_cases hs : ∃ listing, (c.cells key).state = .populated listing
  · obtain ⟨listing, hs⟩ := hs
    obtain ⟨last, hlength, hlast⟩ := h.last_attempt hc hs
    have hsucceeds : outcome last = true := (hfollows last _ hlast).mpr ⟨listing.items, hs⟩
    have hfails : ∀ j < last, outcome j = false := by
      intro j hj
      rw [Bool.eq_false_iff]
      intro htrue
      have hlt : j < (c.attemptsOf key).length := by omega
      obtain ⟨items, hs'⟩ := (hfollows j _ (List.getElem?_eq_getElem hlt)).mp htrue
      have heq := CellState.populated.inj (hs.symm.trans hs')
      rw [heq] at hlast
      have hindex := (nodup_attemptsOf c key).getElem_inj_iff.mp
        (Option.some.inj ((List.getElem?_eq_getElem (by omega)).symm.trans hlast))
      omega
    refine ⟨fun k hk hfirst => ?_, fun hnone => ?_⟩
    · obtain rfl : k = last := by
        rcases Nat.lt_trichotomy k last with hlt | heq | hgt
        · rw [hfails k hlt] at hk
          cases hk
        · exact heq
        · rw [hfirst last hgt] at hsucceeds
          cases hsucceeds
      omega
    · rw [hnone last (by omega)] at hsucceeds
      cases hsucceeds
  · have hnot : ∀ listing, (c.cells key).state ≠ .populated listing := fun l hl => hs ⟨l, hl⟩
    have hlength := h.attempts_eq_reads hc hall hnot
    refine ⟨fun k hk _ => ?_, fun _ => hlength⟩
    rcases Nat.lt_or_ge k (c.attemptsOf key).length with hlt | hge
    · obtain ⟨items, hs'⟩ := (hfollows k _ (List.getElem?_eq_getElem hlt)).mp hk
      exact absurd hs' (hnot _)
    · omega

end Answered

end Config

end CubeClient.Deferred
