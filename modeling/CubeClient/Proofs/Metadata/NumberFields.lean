import CubeClient.Field
import CubeClient.Proofs.Envelope.Classification
import CubeClient.Proofs.Number.Widths

/-!
# The number fields of a row

A field is read by its text, and how its text is read as an integer depends on the wanted width only
where the number is out of range. So all readings of one field agree: a wider one gives the number
of a narrower one, and a narrower one that cannot says on which side the number lies
(`Field.readings_agree`). No reading changes a number.
-/

namespace CubeClient.Field

open CubeClient.Number CubeClient.Text CubeClient.Xml

variable {row : Element} {name : String}

/-! ## Fields without a value -/

/-- A field that is not there, or holds white space alone. -/
inductive Lacking (row : Element) (name : String) : Prop
  | absent (h : ¬ row.Has none name)
  | blank {s : String} (hs : string? row name = some s) (h : ∀ c ∈ s.toList, isSpace c = true)

theorem string?_eq_none_iff : string? row name = none ↔ ¬ row.Has none name := by
  rw [string?, Option.map_eq_none_iff, Element.child?_eq_none_iff]

theorem isBlank_iff {s : String} : isBlank s = true ↔ ∀ c ∈ s.toList, isSpace c = true :=
  List.all_eq_true

theorem not_lacking_of_text {s : String} (hs : string? row name = some s)
    (hblank : isBlank s = false) : ¬ Lacking row name := by
  intro h
  cases h with
  | absent h =>
    rw [string?_eq_none_iff.mpr h] at hs
    cases hs
  | blank hs' h =>
    rw [hs] at hs'
    cases hs'
    rw [isBlank_iff.mpr h] at hblank
    cases hblank

/-- A field has no value, or a text that is more than white space. -/
theorem lacking_or_text (row : Element) (name : String) :
    Lacking row name ∨ ∃ s, string? row name = some s ∧ isBlank s = false := by
  cases hs : string? row name with
  | none => exact .inl (.absent (string?_eq_none_iff.mp hs))
  | some s =>
    cases hblank : isBlank s with
    | true => exact .inl (.blank hs (isBlank_iff.mp hblank))
    | false => exact .inr ⟨s, rfl, hblank⟩

section

variable {α : Type} {read : String → Except NumberFault α}

/-- An optional field that is lacking is no value. -/
theorem optional_of_lacking (h : Lacking row name) : optional read row name = .ok none := by
  unfold optional
  cases h with
  | absent h => rw [string?_eq_none_iff.mpr h]
  | blank hs h =>
    rw [hs]
    exact if_pos (isBlank_iff.mpr h)

theorem strict_of_lacking (h : Lacking row name) :
    strict read row name = .error (.missingField name) := by
  rw [strict, optional_of_lacking h]

/-! ## Fields with a text -/

/-- What becomes of a field whose text is read. -/
def outcome (name s : String) : Except NumberFault α → Except ClientError α
  | .ok value => .ok value
  | .error fault => .error (.invalidField name s fault)

theorem optional_of_text {s : String} (hs : string? row name = some s)
    (hblank : isBlank s = false) :
    optional read row name = (outcome name s (read (trim s))).map some := by
  unfold optional
  rw [hs]
  simp only [hblank, Bool.false_eq_true, if_false]
  cases read (trim s) <;> rfl

theorem strict_of_text {s : String} (hs : string? row name = some s) (hblank : isBlank s = false) :
    strict read row name = outcome name s (read (trim s)) := by
  rw [strict, optional_of_text hs hblank]
  cases read (trim s) <;> rfl

/-- A strict field has a value if it has a text that reads as one. -/
theorem strict_eq_ok_iff {value : α} : strict read row name = .ok value ↔
    ∃ s, string? row name = some s ∧ isBlank s = false ∧ read (trim s) = .ok value := by
  constructor
  · intro h
    rcases lacking_or_text row name with hlacking | ⟨s, hs, hblank⟩
    · rw [strict_of_lacking hlacking] at h
      cases h
    · rw [strict_of_text hs hblank] at h
      refine ⟨s, hs, hblank, ?_⟩
      cases hread : read (trim s) with
      | error fault =>
        rw [hread] at h
        cases h
      | ok value' =>
        rw [hread] at h
        cases h
        rfl
  · rintro ⟨s, hs, hblank, hread⟩
    rw [strict_of_text hs hblank, hread]
    rfl

/-- A reading that gives at least what another gives does so for every field. -/
theorem strict_mono {β : Type} {read' : String → Except NumberFault β} {value : α} {value' : β}
    (hread : ∀ s, read s = .ok value → read' s = .ok value')
    (h : strict read row name = .ok value) : strict read' row name = .ok value' := by
  obtain ⟨s, hs, hblank, hvalue⟩ := strict_eq_ok_iff.mp h
  exact strict_eq_ok_iff.mpr ⟨s, hs, hblank, hread _ hvalue⟩

/-- The four ways in which a field that may be absent and one that must not be are read. -/
theorem optional_strict_cases (read : String → Except NumberFault α) (row : Element)
    (name : String) :
    (Lacking row name ∧ optional read row name = .ok none ∧
      strict read row name = .error (.missingField name)) ∨
    ¬ Lacking row name ∧
      ((∃ value, optional read row name = .ok (some value) ∧ strict read row name = .ok value) ∨
      ∃ s fault, optional read row name = .error (.invalidField name s fault) ∧
        strict read row name = .error (.invalidField name s fault)) := by
  rcases lacking_or_text row name with hlacking | ⟨s, hs, hblank⟩
  · exact .inl ⟨hlacking, optional_of_lacking hlacking, strict_of_lacking hlacking⟩
  · refine .inr ⟨not_lacking_of_text hs hblank, ?_⟩
    rw [optional_of_text hs hblank, strict_of_text hs hblank]
    cases read (trim s) with
    | ok value => exact .inl ⟨value, rfl, rfl⟩
    | error fault => exact .inr ⟨s, fault, rfl, rfl⟩

/-- An optional field is no value exactly if it is lacking. -/
theorem optional_eq_none_iff : optional read row name = .ok none ↔ Lacking row name := by
  rcases optional_strict_cases read row name with
    ⟨hlacking, ho, -⟩ | ⟨hnot, ⟨value, ho, -⟩ | ⟨s, fault, ho, -⟩⟩
  · exact iff_of_true ho hlacking
  · exact iff_of_false (by rw [ho]; nofun) hnot
  · exact iff_of_false (by rw [ho]; nofun) hnot

/-- A strict field is reported missing under its own name, and exactly if it is lacking. -/
theorem strict_eq_missing_iff {field : String} :
    strict read row name = .error (.missingField field) ↔ field = name ∧ Lacking row name := by
  rcases optional_strict_cases read row name with
    ⟨hlacking, -, hs⟩ | ⟨hnot, ⟨value, -, hs⟩ | ⟨s, fault, -, hs⟩⟩
  · rw [hs]
    simp [hlacking, eq_comm]
  · exact iff_of_false (by rw [hs]; nofun) (fun h => hnot h.2)
  · exact iff_of_false (by rw [hs]; nofun) (fun h => hnot h.2)

/-- The optional and the strict reading agree on values. -/
theorem optional_eq_some_iff {value : α} :
    optional read row name = .ok (some value) ↔ strict read row name = .ok value := by
  rcases optional_strict_cases read row name with
    ⟨-, ho, hs⟩ | ⟨-, ⟨value, ho, hs⟩ | ⟨s, fault, ho, hs⟩⟩ <;> simp [ho, hs]

/-- They agree on errors, but for the field that is lacking. -/
theorem optional_eq_error_iff {e : ClientError} : optional read row name = .error e ↔
    strict read row name = .error e ∧ ¬ Lacking row name := by
  rcases optional_strict_cases read row name with
    ⟨hlacking, ho, hs⟩ | ⟨hnot, ⟨value, ho, hs⟩ | ⟨s, fault, ho, hs⟩⟩
  · simp [ho, hlacking]
  · simp [ho, hs]
  · simp [ho, hs, hnot]

end

/-! ## Integers of several widths -/

/-- A written integer is read as far as it fits. -/
theorem readInteger_of_writes (bits : Nat) {s : String} {n : Int} (h : Writes s.toList n) :
    readInteger (.signed bits) s = ((IntegerRange.signed bits).fit n).mapError .integer := by
  rw [readInteger, IntegerRange.read,
    IntegerRange.readList_of_writes (IntegerRange.isSigned_signed bits) h]

/-- A text that is read as an integer writes this integer, and it is in range. -/
theorem writes_of_readInteger {bits : Nat} {s : String} {n : Int}
    (h : readInteger (.signed bits) s = .ok n) :
    Writes s.toList n ∧ (IntegerRange.signed bits).low ≤ n ∧
      n ≤ (IntegerRange.signed bits).high := by
  rw [← IntegerRange.readList_eq_ok_iff (IntegerRange.isSigned_signed bits)]
  exact mapError_eq_ok h

theorem low_signed (bits : Nat) : (IntegerRange.signed bits).low = -2 ^ (bits - 1) := by
  show -((2 ^ (bits - 1) : Nat) : Int) = -2 ^ (bits - 1)
  push_cast
  rfl

theorem high_signed (bits : Nat) : (IntegerRange.signed bits).high = 2 ^ (bits - 1) - 1 := by
  show ((2 ^ (bits - 1) : Nat) : Int) - 1 = 2 ^ (bits - 1) - 1
  push_cast
  rfl

/-- A field that one width reads is read by each width as its range fits the number. -/
theorem exists_fit_of_signed {wide : Nat} {n : Int} (h : signed wide row name = .ok n) :
    ∃ s, string? row name = some s ∧ ∀ bits, signed bits row name =
      outcome name s (((IntegerRange.signed bits).fit n).mapError .integer) := by
  obtain ⟨s, hs, hblank, hread⟩ := strict_eq_ok_iff.mp h
  refine ⟨s, hs, fun bits => ?_⟩
  rw [signed, strict_of_text hs hblank, readInteger_of_writes bits (writes_of_readInteger hread).1]

/-- A width reads the number that another reads, if the number is in its range. -/
theorem signed_of_signed {narrow wide : Nat} {n : Int} (h : signed wide row name = .ok n)
    (hlow : -2 ^ (narrow - 1) ≤ n) (hhigh : n < 2 ^ (narrow - 1)) :
    signed narrow row name = .ok n := by
  obtain ⟨s, -, hfit⟩ := exists_fit_of_signed h
  rw [hfit, IntegerRange.fit, high_signed, low_signed, if_neg (by omega), if_neg (by omega)]
  rfl

/-- An integer of some bits is between the bounds of two's complement. -/
theorem range_of_signed {bits : Nat} {n : Int} (h : signed bits row name = .ok n) :
    -2 ^ (bits - 1) ≤ n ∧ n < 2 ^ (bits - 1) := by
  obtain ⟨s, -, -, hread⟩ := strict_eq_ok_iff.mp h
  obtain ⟨-, hlow, hhigh⟩ := writes_of_readInteger hread
  rw [low_signed] at hlow
  rw [high_signed] at hhigh
  omega

/-- An integer that fits is read the same without bounds. -/
theorem unbounded_of_readInteger {bits : Nat} {s : String} {n : Int}
    (h : readInteger (.signed bits) s = .ok n) : readUnboundedInteger s = .ok n := by
  rw [readUnboundedInteger, readUnbounded, readUnboundedList_of_writes (writes_of_readInteger h).1]
  rfl

/-- An integer is read the same as a decimal. -/
theorem readDecimal_of_unbounded {s : String} {n : Int} (h : readUnboundedInteger s = .ok n) :
    readDecimal s = .ok ⟨n, 0⟩ := by
  rw [readDecimal, Decimal.read?_of_readUnbounded (mapError_eq_ok h)]
  rfl

/-- All readings of one field as a number agree. Widths are numbers of bits. -/
structure ReadingsAgree (row : Element) (name : String) : Prop where
  wider : ∀ {narrow wide n}, narrow ≤ wide → signed narrow row name = .ok n →
    signed wide row name = .ok n
  unbounded : ∀ {bits n}, signed bits row name = .ok n → integer row name = .ok n
  decimal : ∀ {n}, integer row name = .ok n → decimal row name = .ok ⟨n, 0⟩
  narrower : ∀ {narrow wide n}, signed wide row name = .ok n →
    -2 ^ (narrow - 1) ≤ n → n < 2 ^ (narrow - 1) → signed narrow row name = .ok n
  /-- The error keeps the text of the field with the white space around it. -/
  tooLarge : ∀ {narrow wide n}, signed wide row name = .ok n → 2 ^ (narrow - 1) ≤ n →
    ∃ s, string? row name = some s ∧
      signed narrow row name = .error (.invalidField name s (.integer .tooLarge))
  tooSmall : ∀ {narrow wide n}, signed wide row name = .ok n → n < -2 ^ (narrow - 1) →
    ∃ s, string? row name = some s ∧
      signed narrow row name = .error (.invalidField name s (.integer .tooSmall))
  /-- A field that may be absent and is has no value, and one that must not be is missing. -/
  none_iff : int32? row name = .ok none ↔ Lacking row name
  missing_iff : ∀ field,
    signed 32 row name = .error (.missingField field) ↔ field = name ∧ Lacking row name
  some_iff : ∀ n, int32? row name = .ok (some n) ↔ signed 32 row name = .ok n
  error_iff : ∀ e, int32? row name = .error e ↔
    signed 32 row name = .error e ∧ ¬ Lacking row name

/-- All readings of a field agree as far as they accept it. -/
theorem readings_agree (row : Element) (name : String) : ReadingsAgree row name where
  wider hwidth h := by
    obtain ⟨hlow, hhigh⟩ := range_of_signed h
    have hpow := pow_le_pow_right₀ (show (1 : Int) ≤ 2 by decide) (Nat.sub_le_sub_right hwidth 1)
    exact signed_of_signed h (by omega) (by omega)
  unbounded h := strict_mono (fun _ => unbounded_of_readInteger) h
  decimal h := strict_mono (fun _ => readDecimal_of_unbounded) h
  narrower := signed_of_signed
  tooLarge h hn := by
    obtain ⟨s, hs, hfit⟩ := exists_fit_of_signed h
    refine ⟨s, hs, ?_⟩
    rw [hfit, IntegerRange.fit, high_signed, if_pos (by omega)]
    rfl
  tooSmall {narrow _ _} h hn := by
    obtain ⟨s, hs, hfit⟩ := exists_fit_of_signed h
    have hpos : (0 : Int) < 2 ^ (narrow - 1) := pow_pos (by decide) _
    refine ⟨s, hs, ?_⟩
    rw [hfit, IntegerRange.fit, high_signed, low_signed, if_neg (by omega), if_pos (by omega)]
    rfl
  none_iff := optional_eq_none_iff
  missing_iff _ := strict_eq_missing_iff
  some_iff _ := optional_eq_some_iff
  error_iff _ := optional_eq_error_iff

/-- A row whose only field is a number too large for a byte, after a blank. -/
def codeRow : Element :=
  ⟨⟨none, "row", []⟩, [.element ⟨none, "CODE", []⟩ [.text " 128"]]⟩

example : signed 16 codeRow "CODE" = .ok 128 ∧
    signed 8 codeRow "CODE" = .error (.invalidField "CODE" " 128" (.integer .tooLarge)) := by
  decide

end CubeClient.Field
