import CubeClient.Number.Integer
import Mathlib.Tactic.IntervalCases

/-!
# Integers that are written and read

A natural number in decimal notation is read as itself in every range it lies in
(`read_toString`). The reader refuses a number as soon as what it has read is too large, and what it
has read of a number is never larger than the number.
-/

namespace CubeClient.Number.IntegerRange

open CubeClient.Text

variable {range : IntegerRange}

theorem digitValue?_digitChar {d : Nat} (h : d < 10) : digitValue? d.digitChar = some d := by
  interval_cases d <;> rfl

theorem readDigits_append {negative : Bool} {acc read : Int} {front : List Char}
    (h : range.readDigits negative acc front = .ok read) (back : List Char) :
    range.readDigits negative acc (front ++ back) = range.readDigits negative read back := by
  induction front generalizing acc with
  | nil =>
    cases h
    rfl
  | cons c front ih =>
    rw [List.cons_append, readDigits]
    rw [readDigits] at h
    cases hc : digitValue? c with
    | none => simp [hc] at h
    | some d =>
      simp only [hc] at h ⊢
      generalize (if negative then acc * 10 - (d : Int) else acc * 10 + d) = value at h ⊢
      split at h
      · cases h
      · split at h
        · cases h
        · rename_i hhigh hlow
          rw [if_neg hhigh, if_neg hlow]
          exact ih h

/-- One more digit that leaves the number in the range. -/
theorem readDigits_digitChar {n d : Nat} (hd : d < 10) (hlow : range.low ≤ 0)
    (hhigh : ((n * 10 + d : Nat) : Int) ≤ range.high) :
    range.readDigits false n [d.digitChar] = .ok ((n * 10 + d : Nat) : Int) := by
  rw [readDigits, digitValue?_digitChar hd]
  simp only [Bool.false_eq_true, if_false]
  rw [if_neg (by omega), if_neg (by omega), readDigits]
  simp

/-- The decimal digits of a number in range are read as this number. -/
theorem readDigits_toDigits {n : Nat} (hlow : range.low ≤ 0) (hhigh : (n : Int) ≤ range.high) :
    range.readDigits false 0 (Nat.toDigits 10 n) = .ok (n : Int) := by
  induction n using Nat.strongRecOn with
  | ind n ih =>
    have hback : range.readDigits false ((n / 10 : Nat) : Int) [(n % 10).digitChar] =
        .ok (n : Int) := by
      have hsplit : n / 10 * 10 + n % 10 = n := by omega
      have hread : range.readDigits false ((n / 10 : Nat) : Int) [(n % 10).digitChar] =
          .ok ((n / 10 * 10 + n % 10 : Nat) : Int) :=
        readDigits_digitChar (Nat.mod_lt _ (by decide)) hlow (by rwa [hsplit])
      rwa [hsplit] at hread
    rw [Nat.toDigits_eq_if (by decide)]
    split
    · rename_i hlt
      rwa [Nat.div_eq_of_lt hlt, Nat.mod_eq_of_lt hlt] at hback
    · rename_i hge
      rw [readDigits_append (ih (n / 10) (by omega) (by omega)), hback]

/-- Digits that no sign is in front of are read as they are. -/
theorem readList_cons {c : Char} {cs : List Char} {d : Nat} (h : digitValue? c = some d) :
    range.readList (c :: cs) = range.readDigits false 0 (c :: cs) := by
  have hplus : c ≠ '+' := by
    rintro rfl
    cases h
  have hminus : c ≠ '-' := by
    rintro rfl
    cases h
  unfold readList
  split <;> simp_all

theorem exists_toDigits_eq_cons (n : Nat) :
    ∃ d cs, d < 10 ∧ Nat.toDigits 10 n = Nat.digitChar d :: cs := by
  induction n using Nat.strongRecOn with
  | ind n ih =>
    rw [Nat.toDigits_eq_if (by decide)]
    split
    · rename_i hlt
      exact ⟨n, [], hlt, rfl⟩
    · obtain ⟨d, cs, hd, heq⟩ := ih (n / 10) (by omega)
      exact ⟨d, cs ++ [(n % 10).digitChar], hd, by rw [heq, List.cons_append]⟩

/-- A number that is in range is read back from its decimal text. -/
theorem read_toString {n : Nat} (hlow : range.low ≤ 0) (hhigh : (n : Int) ≤ range.high) :
    range.read (toString n) = .ok (n : Int) := by
  have htext : (toString n).toList = Nat.toDigits 10 n := Nat.toList_repr
  obtain ⟨d, cs, hd, hdigits⟩ := exists_toDigits_eq_cons n
  rw [read, htext, hdigits, readList_cons (digitValue?_digitChar hd), ← hdigits]
  exact readDigits_toDigits hlow hhigh

end CubeClient.Number.IntegerRange
