import CubeClient.Number.Binary
import CubeClient.Number.Decimal
import CubeClient.Proofs.Failure
import CubeClient.Proofs.Number.Integers
import Mathlib.Data.List.TakeWhile

/-!
# One integer in several ranges

What a text writes as an integer does not depend on a range: a sign or none, and at least one digit
(`Writes`). A range then takes the number as it is, or says on which side of it the number lies
(`readList_of_writes`), although the reader stops at the first digit that is too much and never sees
the number. So two ranges read a text alike but for their ends.

Integers of any size read what every range reads, and decimals what these read
(`Decimal.read?_of_readUnbounded`), both more loosely.
-/

namespace CubeClient.Number

open CubeClient.Text

/-! ## Integers as they are written -/

/-- A number with the sign in front of it. -/
def withSign (negative : Bool) (n : Nat) : Int :=
  if negative then -(n : Int) else n

/-- The number that digits lead to from the one read in front of them. -/
def valueFrom (acc : Nat) (digits : List Char) : Nat :=
  digits.foldl (fun acc c => acc * 10 + (digitValue? c).getD 0) acc

/-- Digits, and nothing else. -/
def AllDigits (cs : List Char) : Prop :=
  ∀ c ∈ cs, isDigit c = true

/-- A text writes an integer: a sign or none, and at least one digit. -/
inductive Writes : List Char → Int → Prop
  | plain {digits : List Char} (hne : digits ≠ []) (h : AllDigits digits) :
      Writes digits (withSign false (valueFrom 0 digits))
  | plus {digits : List Char} (hne : digits ≠ []) (h : AllDigits digits) :
      Writes ('+' :: digits) (withSign false (valueFrom 0 digits))
  | minus {digits : List Char} (hne : digits ≠ []) (h : AllDigits digits) :
      Writes ('-' :: digits) (withSign true (valueFrom 0 digits))

theorem AllDigits.of_cons {c : Char} {cs : List Char} (h : AllDigits (c :: cs)) :
    (∃ d, digitValue? c = some d) ∧ AllDigits cs := by
  obtain ⟨hc, hcs⟩ := List.forall_mem_cons.mp h
  exact ⟨Option.isSome_iff_exists.mp hc, hcs⟩

theorem ne_of_isDigit {c d : Char} (hc : isDigit c = true) (hd : isDigit d = false) : c ≠ d := by
  rintro rfl
  rw [hc] at hd
  cases hd

theorem valueFrom_cons {c : Char} {d : Nat} (h : digitValue? c = some d) (acc : Nat)
    (cs : List Char) : valueFrom acc (c :: cs) = valueFrom (acc * 10 + d) cs := by
  rw [valueFrom, List.foldl_cons, h]
  rfl

theorem le_valueFrom (acc : Nat) (cs : List Char) : acc ≤ valueFrom acc cs := by
  induction cs generalizing acc with
  | nil => exact Nat.le_refl acc
  | cons c cs ih =>
    have hstep : acc ≤ acc * 10 + (digitValue? c).getD 0 := by omega
    exact Nat.le_trans hstep (ih _)

theorem withSign_step (negative : Bool) (acc d : Nat) :
    (if negative then withSign negative acc * 10 - (d : Int) else withSign negative acc * 10 + d) =
      withSign negative (acc * 10 + d) := by
  cases negative
  · simp [withSign]
  · simp only [withSign, if_true]
    omega

/-! ## What a range makes of a number -/

namespace IntegerRange

variable {range : IntegerRange}

/-- A number, if it is in the range; else the side on which it is out of it. -/
def fit (range : IntegerRange) (n : Int) : Except IntegerFault Int :=
  if range.high < n then .error .tooLarge
  else if n < range.low then .error .tooSmall
  else .ok n

/-- Numbers of both signs are in the range. -/
structure IsSigned (range : IntegerRange) : Prop where
  low_neg : range.low < 0
  high_nonneg : 0 ≤ range.high

/-- A range of signed integers holds numbers of both signs. -/
theorem isSigned_signed (bits : Nat) : (signed bits).IsSigned := by
  have hpos : 0 < Nat.pow 2 (bits - 1) := Nat.pow_pos (by decide)
  constructor <;> simp only [signed] <;> omega

/-- Only a number in range fits, and it stays the same. -/
theorem fit_eq_ok_iff {n m : Int} :
    range.fit n = .ok m ↔ n = m ∧ range.low ≤ n ∧ n ≤ range.high := by
  unfold fit
  split
  · simp only [reduceCtorEq, false_iff]
    omega
  · split
    · simp only [reduceCtorEq, false_iff]
      omega
    · simp only [Except.ok.injEq]
      omega

/-- Digits lead away from zero, so the first number that is out of the range shows on which side of
it the last one is. -/
theorem readDigits_of_allDigits (hrange : range.IsSigned) (negative : Bool) {cs : List Char}
    (h : AllDigits cs) {acc : Nat} (hlow : range.low ≤ withSign negative acc)
    (hhigh : withSign negative acc ≤ range.high) :
    range.readDigits negative (withSign negative acc) cs =
      range.fit (withSign negative (valueFrom acc cs)) := by
  induction cs generalizing acc with
  | nil =>
    rw [readDigits, eq_comm, fit_eq_ok_iff]
    exact ⟨rfl, hlow, hhigh⟩
  | cons c cs ih =>
    obtain ⟨⟨d, hd⟩, hcs⟩ := h.of_cons
    have hgrows := le_valueFrom (acc * 10 + d) cs
    have hneg := hrange.low_neg
    have hpos := hrange.high_nonneg
    rw [readDigits, hd]
    simp only [withSign_step, valueFrom_cons hd]
    split
    · rename_i hover
      rw [fit, if_pos]
      cases negative
      · simp only [withSign, Bool.false_eq_true, if_false] at hover ⊢
        omega
      · simp only [withSign, if_true] at hover
        omega
    · split
      · rename_i hunder
        cases negative
        · simp only [withSign, Bool.false_eq_true, if_false] at hunder
          omega
        · simp only [withSign, if_true] at hunder ⊢
          rw [fit, if_neg (by omega), if_pos (by omega)]
      · exact ih hcs (by omega) (by omega)

/-- Digits are read as their value, as far as it fits. -/
theorem readDigits_zero (hrange : range.IsSigned) (negative : Bool) {cs : List Char}
    (h : AllDigits cs) :
    range.readDigits negative 0 cs = range.fit (withSign negative (valueFrom 0 cs)) := by
  have hzero : withSign negative 0 = 0 := by cases negative <;> rfl
  have hlow : range.low ≤ withSign negative 0 := by
    rw [hzero]
    exact hrange.low_neg.le
  have hhigh : withSign negative 0 ≤ range.high := by
    rw [hzero]
    exact hrange.high_nonneg
  have hread := readDigits_of_allDigits hrange negative h hlow hhigh
  rwa [hzero] at hread

/-- Only digits are read as digits. -/
theorem allDigits_of_readDigits {negative : Bool} {acc n : Int} {cs : List Char}
    (h : range.readDigits negative acc cs = .ok n) : AllDigits cs := by
  induction cs generalizing acc with
  | nil => exact List.forall_mem_nil _
  | cons c cs ih =>
    rw [readDigits] at h
    cases hc : digitValue? c with
    | none => simp [hc] at h
    | some d =>
      simp only [hc] at h
      generalize (if negative then acc * 10 - (d : Int) else acc * 10 + d) = value at h
      split at h
      · cases h
      · split at h
        · cases h
        · exact List.forall_mem_cons.mpr ⟨Option.isSome_iff_exists.mpr ⟨d, hc⟩, ih h⟩

/-- A range takes the number that a text writes, or says on which side of the range it is. -/
theorem readList_of_writes (hrange : range.IsSigned) {cs : List Char} {n : Int}
    (h : Writes cs n) : range.readList cs = range.fit n := by
  cases h with
  | plain hne h =>
    obtain ⟨c, digits, rfl⟩ := List.exists_cons_of_ne_nil hne
    obtain ⟨⟨d, hd⟩, -⟩ := h.of_cons
    rw [readList_cons hd, readDigits_zero hrange false h]
  | plus hne h =>
    rw [readList, readDigits_zero hrange false h]
    exact hne
  | minus hne h =>
    rw [readList, if_pos hrange.low_neg, readDigits_zero hrange true h]
    exact hne

/-- Only what writes an integer is read as one. -/
theorem exists_writes_of_readList (hrange : range.IsSigned) {cs : List Char} {n : Int}
    (h : range.readList cs = .ok n) : ∃ m, Writes cs m := by
  unfold readList at h
  split at h
  · cases h
  · cases h
  · cases h
  · rename_i hne
    exact ⟨_, .plus hne (allDigits_of_readDigits h)⟩
  · rename_i hne
    rw [if_pos hrange.low_neg] at h
    exact ⟨_, .minus hne (allDigits_of_readDigits h)⟩
  · rename_i hne _ _ _ _
    exact ⟨_, .plain hne (allDigits_of_readDigits h)⟩

/-- A range reads the numbers in it that are written. -/
theorem readList_eq_ok_iff (hrange : range.IsSigned) {cs : List Char} {n : Int} :
    range.readList cs = .ok n ↔ Writes cs n ∧ range.low ≤ n ∧ n ≤ range.high := by
  constructor
  · intro h
    obtain ⟨m, hwrites⟩ := exists_writes_of_readList hrange h
    rw [readList_of_writes hrange hwrites, fit_eq_ok_iff] at h
    obtain ⟨rfl, hin⟩ := h
    exact ⟨hwrites, hin⟩
  · rintro ⟨hwrites, hin⟩
    rw [readList_of_writes hrange hwrites, fit_eq_ok_iff]
    exact ⟨rfl, hin⟩

end IntegerRange

/-! ## Integers of any size -/

/-- Loose reading takes digits as they are. -/
theorem readLooseDigits_of_allDigits {cs : List Char} (h : AllDigits cs) (acc : Nat) :
    readLooseDigits acc cs = .ok (valueFrom acc cs) := by
  induction cs generalizing acc with
  | nil => rfl
  | cons c cs ih =>
    have hloose : c ≠ '_' := ne_of_isDigit (h c List.mem_cons_self) rfl
    obtain ⟨⟨d, hd⟩, hcs⟩ := h.of_cons
    rw [readLooseDigits, hd, valueFrom_cons hd]
    · exact ih hcs _
    · exact hloose

theorem readUnboundedNat_of_allDigits {digits : List Char} (hne : digits ≠ [])
    (h : AllDigits digits) :
    readUnboundedNat digits = .ok (valueFrom 0 digits) ∧
      readUnboundedNat ('+' :: digits) = .ok (valueFrom 0 digits) := by
  obtain ⟨c, cs, rfl⟩ := List.exists_cons_of_ne_nil hne
  have hplus : c ≠ '+' := ne_of_isDigit (h c List.mem_cons_self) rfl
  have hloose : c ≠ '_' := ne_of_isDigit (h c List.mem_cons_self) rfl
  rw [← readLooseDigits_of_allDigits h 0]
  constructor
  · unfold readUnboundedNat
    grind
  · unfold readUnboundedNat
    grind

/-- Integers of any size read the number that a text writes. -/
theorem readUnboundedList_of_writes {cs : List Char} {n : Int} (h : Writes cs n) :
    readUnboundedList cs = .ok n := by
  cases h with
  | plain hne h =>
    obtain ⟨c, digits, rfl⟩ := List.exists_cons_of_ne_nil hne
    have hminus : c ≠ '-' := ne_of_isDigit (h c List.mem_cons_self) rfl
    rw [readUnboundedList, (readUnboundedNat_of_allDigits hne h).1]
    · rfl
    · grind
    · grind
  | plus hne h =>
    rw [readUnboundedList, (readUnboundedNat_of_allDigits hne h).2]
    · rfl
    · grind
    · grind
  | minus hne h =>
    obtain ⟨c, digits, rfl⟩ := List.exists_cons_of_ne_nil hne
    have hplus : c ≠ '+' := ne_of_isDigit (h c List.mem_cons_self) rfl
    rw [readUnboundedList, (readUnboundedNat_of_allDigits hne h).1]
    · rfl
    · grind

/-! ## Decimals -/

/-- The characters that integers of any size are written with. -/
def isLoose (c : Char) : Bool :=
  c == '+' || c == '-' || c == '_' || isDigit c

theorem loose_of_readLooseDigits {cs : List Char} {acc n : Nat}
    (h : readLooseDigits acc cs = .ok n) : ∀ c ∈ cs, isLoose c = true := by
  fun_induction readLooseDigits acc cs with
  | case1 => exact List.forall_mem_nil _
  | case2 acc cs ih => exact List.forall_mem_cons.mpr ⟨rfl, ih h⟩
  | case3 => cases h
  | case4 acc c cs _ d hd ih =>
    refine List.forall_mem_cons.mpr ⟨?_, ih h⟩
    simp [isLoose, isDigit, hd]

theorem loose_of_readUnboundedNat {cs : List Char} {n : Nat} (h : readUnboundedNat cs = .ok n) :
    cs ≠ [] ∧ ∀ c ∈ cs, isLoose c = true := by
  have hdigits : ∃ digits, digits ≠ [] ∧ readLooseDigits 0 digits = .ok n ∧
      (cs = digits ∨ cs = '+' :: digits) := by
    unfold readUnboundedNat at h
    grind
  obtain ⟨digits, hne, hread, rfl | rfl⟩ := hdigits
  · exact ⟨hne, loose_of_readLooseDigits hread⟩
  · exact ⟨List.cons_ne_nil _ _, List.forall_mem_cons.mpr ⟨rfl, loose_of_readLooseDigits hread⟩⟩

/-- Integers of any size are read from signs, digits and underscores only. -/
theorem loose_of_readUnboundedList {cs : List Char} {n : Int} (h : readUnboundedList cs = .ok n) :
    cs ≠ [] ∧ ∀ c ∈ cs, isLoose c = true := by
  have hunsigned : ∃ unsigned m, readUnboundedNat unsigned = .ok m ∧
      (cs = unsigned ∨ cs = '-' :: unsigned) := by
    unfold readUnboundedList at h
    split at h
    all_goals
      obtain ⟨value, hvalue, -⟩ := map_eq_ok h
      obtain ⟨m, hm, -⟩ := bind_eq_ok hvalue
    · exact ⟨_, m, hm, .inl rfl⟩
    · exact ⟨_, m, hm, .inr rfl⟩
    · exact ⟨_, m, hm, .inl rfl⟩
  obtain ⟨unsigned, m, hread, rfl | rfl⟩ := hunsigned
  · exact loose_of_readUnboundedNat hread
  · obtain ⟨-, hloose⟩ := loose_of_readUnboundedNat hread
    exact ⟨List.cons_ne_nil _ _, List.forall_mem_cons.mpr ⟨rfl, hloose⟩⟩

namespace Decimal

theorem splitExponent_of_notMem {cs : List Char} (hsmall : 'e' ∉ cs) (hcapital : 'E' ∉ cs) :
    splitExponent cs = (cs, none) := by
  have hbase : cs.takeWhile (fun c => c != 'e' && c != 'E') = cs := by
    rw [List.takeWhile_eq_self_iff]
    intro c hc
    simpa using ⟨ne_of_mem_of_not_mem hc hsmall, ne_of_mem_of_not_mem hc hcapital⟩
  simp only [splitExponent, hbase, List.drop_length]

theorem splitPoint_of_notMem {cs : List Char} (h : '.' ∉ cs) : splitPoint cs = (cs, 0) := by
  have hlead : cs.takeWhile (· != '.') = cs := by
    rw [List.takeWhile_eq_self_iff]
    intro c hc
    simpa using ne_of_mem_of_not_mem hc h
  simp only [splitPoint, hlead, List.drop_length]

/-- An integer of any size is a decimal without digits behind the point. -/
theorem read?_of_readUnbounded {text : String} {n : Int} (h : readUnbounded text = .ok n) :
    read? text = some ⟨n, 0⟩ := by
  rw [readUnbounded] at h
  obtain ⟨hne, hloose⟩ := loose_of_readUnboundedList h
  have hnot : ∀ c, isLoose c = false → c ∉ text.toList := by
    intro c hc hmem
    rw [hloose c hmem] at hc
    cases hc
  have hscale : (IntegerRange.signed 64).low ≤ 0 ∧ 0 ≤ (IntegerRange.signed 64).high := by decide
  have hdigits : (readUnboundedList text.toList).toOption = some n := by
    rw [h]
    rfl
  rw [read?, splitExponent_of_notMem (hnot _ rfl) (hnot _ rfl)]
  simp [splitPoint_of_notMem (hnot _ rfl), hdigits, hne, hscale, guard]

end Decimal

end CubeClient.Number
