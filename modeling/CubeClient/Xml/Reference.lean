import CubeClient.Text.Ascii

/-!
# Character references and escaping

Written text escapes the five characters that XML reserves, and nothing else. Read text knows the
five names of these characters and numeric references; any other ampersand makes it malformed.

`unescapeList?_escapeList` is the reason a value may be any text at all: whatever is written is read
back unchanged.
-/

namespace CubeClient.Xml

open CubeClient.Text

/-- The escaped form of one character. -/
def escapeChar : Char → List Char
  | '<' => ['&', 'l', 't', ';']
  | '>' => ['&', 'g', 't', ';']
  | '&' => ['&', 'a', 'm', 'p', ';']
  | '\'' => ['&', 'a', 'p', 'o', 's', ';']
  | '"' => ['&', 'q', 'u', 'o', 't', ';']
  | c => [c]

/-- Text with its reserved characters escaped. -/
def escapeList (cs : List Char) : List Char :=
  cs.flatMap escapeChar

/-- Text with its reserved characters escaped. -/
def escape (s : String) : String :=
  String.ofList (escapeList s.toList)

/-- The value of a numeric reference; neither a sign nor zero is allowed. -/
def numericReference? (base : Nat) (digits : List Char) : Option Char := do
  guard !digits.isEmpty
  let n ← digits.foldlM (fun acc c => (digitValueIn? base c).map (acc * base + ·)) 0
  guard (n ≠ 0 ∧ n.isValidChar)
  return Char.ofNat n

/-- The character that a reference stands for, given what is written between `&` and `;`. -/
def reference? : List Char → Option Char
  | '#' :: 'x' :: digits => numericReference? 16 digits
  | '#' :: digits => numericReference? 10 digits
  | ['l', 't'] => some '<'
  | ['g', 't'] => some '>'
  | ['a', 'm', 'p'] => some '&'
  | ['a', 'p', 'o', 's'] => some '\''
  | ['q', 'u', 'o', 't'] => some '"'
  | _ => none

/-- Splits at the semicolon that ends a reference; another ampersand before it ends nothing. -/
def splitReference? : List Char → Option (List Char × List Char)
  | [] => none
  | c :: rest =>
    if c = ';' then some ([], rest)
    else if c = '&' then none
    else (splitReference? rest).map fun (name, after) => (c :: name, after)

theorem length_lt_of_splitReference? {cs name after : List Char}
    (h : splitReference? cs = some (name, after)) : after.length < cs.length := by
  induction cs generalizing name after with
  | nil => simp [splitReference?] at h
  | cons c rest ih =>
    simp only [splitReference?] at h
    split at h
    · simp only [Option.some.injEq, Prod.mk.injEq] at h
      simp [← h.2]
    · split at h
      · simp at h
      · simp only [Option.map_eq_some_iff] at h
        obtain ⟨⟨n, a⟩, hs, heq⟩ := h
        simp only [Prod.mk.injEq] at heq
        have := ih hs
        simp only [List.length_cons, ← heq.2]
        omega

/-- Text with its references replaced, unless one of them is unknown or not ended. -/
def unescapeList? : List Char → Option (List Char)
  | [] => some []
  | c :: rest =>
    if c = '&' then
      match h : splitReference? rest with
      | none => none
      | some (name, after) =>
        have := length_lt_of_splitReference? h
        match reference? name with
        | none => none
        | some r => (unescapeList? after).map (r :: ·)
    else (unescapeList? rest).map (c :: ·)
termination_by cs => cs.length

/-- Text with its references replaced, unless one of them is unknown or not ended. -/
def unescape? (s : String) : Option String :=
  (unescapeList? s.toList).map String.ofList

/-- An escaped character is read back as that character, whatever follows it. -/
theorem unescapeList?_escapeChar_append (c : Char) (rest : List Char) :
    unescapeList? (escapeChar c ++ rest) = (unescapeList? rest).map (c :: ·) := by
  unfold escapeChar
  split
  case h_6 hlt hgt hamp hapos hquot =>
    rw [List.singleton_append, unescapeList?]
    simp [show c ≠ '&' from hamp]
  all_goals
    simp [unescapeList?, splitReference?, reference?]

/-- Escaped text is read back unchanged. -/
theorem unescapeList?_escapeList (cs : List Char) :
    unescapeList? (escapeList cs) = some cs := by
  induction cs with
  | nil => simp [escapeList, unescapeList?]
  | cons c rest ih =>
    rw [escapeList, List.flatMap_cons, unescapeList?_escapeChar_append]
    rw [escapeList] at ih
    rw [ih]
    rfl

end CubeClient.Xml
