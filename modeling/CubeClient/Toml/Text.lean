import CubeClient.Text.Ascii

/-!
# Texts and keys of settings files

A text is written between double quotes, with escapes, or between single quotes, as it is; between
three quotes of either kind it may have several lines. A key is a text of one line, or a bare word.

Readers take the front of the file and answer what is behind it; `none` is a fault of the file.
-/

namespace CubeClient.Toml

open CubeClient.Text

/-- What a reader of the front of a file answers. -/
abbrev Read (α : Type) : Type := Option (α × List Char)

/-- A blank inside a line. -/
def isBlank (c : Char) : Bool :=
  c == ' ' || c == '\t'

/-- Everything behind the blanks at the front. -/
def skipBlanks (cs : List Char) : List Char :=
  cs.dropWhile isBlank

/-- Skips the end of a line. -/
def skipNewline : List Char → Option (List Char)
  | '\n' :: rest => some rest
  | '\r' :: '\n' :: rest => some rest
  | _ => none

/-- A character that may stand in comments and texts. -/
def isTextChar (c : Char) : Bool :=
  c == '\t' || (0x20 ≤ c.toNat && c.toNat != 0x7F)

/-- The character of hexadecimal digits. -/
def charOfDigits? (digits : List Char) : Option Char := do
  let value ← digits.foldl (fun acc c => do
    let acc ← acc
    let digit ← digitValueIn? 16 c
    some (acc * 16 + digit)) (some 0)
  if h : value.isValidChar then some (Char.ofNatAux value h) else none

/-- The character of an escape of one letter. -/
def escaped? (c : Char) : Option Char :=
  match c with
  | 'b' => some '\x08'
  | 'e' => some '\x1b'
  | 't' => some '\t'
  | 'n' => some '\n'
  | 'f' => some '\x0c'
  | 'r' => some '\r'
  | '"' => some '"'
  | '\\' => some '\\'
  | _ => none

/-- Reads a character that is written as so many hexadecimal digits. -/
def readDigits (count : Nat) (cs : List Char) : Read Char :=
  if cs.length < count then none
  else (charOfDigits? (cs.take count)).map fun c => (c, cs.drop count)

/-- Reads an escape behind its backslash. -/
def readEscape : List Char → Read Char
  | 'x' :: rest => readDigits 2 rest
  | 'u' :: rest => readDigits 4 rest
  | 'U' :: rest => readDigits 8 rest
  | c :: rest => (escaped? c).map fun e => (e, rest)
  | [] => none

theorem length_le_of_readDigits {count : Nat} {cs after : List Char} {c : Char}
    (h : readDigits count cs = some (c, after)) : after.length ≤ cs.length := by
  unfold readDigits at h
  split at h
  · simp at h
  · simp only [Option.map_eq_some_iff, Prod.mk.injEq] at h
    obtain ⟨_, _, _, rfl⟩ := h
    simp only [List.length_drop]
    omega

theorem length_lt_of_readEscape {cs after : List Char} {c : Char}
    (h : readEscape cs = some (c, after)) : after.length < cs.length := by
  unfold readEscape at h
  split at h
  · exact Nat.lt_succ_of_le (length_le_of_readDigits h)
  · exact Nat.lt_succ_of_le (length_le_of_readDigits h)
  · exact Nat.lt_succ_of_le (length_le_of_readDigits h)
  · simp only [Option.map_eq_some_iff, Prod.mk.injEq] at h
    obtain ⟨_, _, _, rfl⟩ := h
    simp
  · simp at h

/-- Puts a character in front of a text that has been read. -/
def consRead (c : Char) : Read (List Char) → Read (List Char)
  | some (text, rest) => some (c :: text, rest)
  | none => none

/-- Reads a text of one line with escapes, behind its opening quote. -/
def readBasic (cs : List Char) : Read (List Char) :=
  match cs with
  | [] => none
  | '"' :: rest => some ([], rest)
  | '\\' :: rest =>
    match h : readEscape rest with
    | none => none
    | some (c, after) =>
      have := length_lt_of_readEscape h
      consRead c (readBasic after)
  | c :: rest => if isTextChar c then consRead c (readBasic rest) else none
termination_by cs.length

/-- Reads a text of one line as it is, behind its opening quote. -/
def readLiteral : List Char → Read (List Char)
  | [] => none
  | '\'' :: rest => some ([], rest)
  | c :: rest => if isTextChar c then consRead c (readLiteral rest) else none

/-- Skips blanks and ends of lines. -/
def skipSpacing : List Char → List Char
  | '\r' :: '\n' :: rest => skipSpacing rest
  | c :: rest => if isBlank c || c == '\n' then skipSpacing rest else c :: rest
  | [] => []

/-- Skips a backslash's line break and all blanks after it; the line may end in blanks. -/
def skipContinuation (cs : List Char) : Option (List Char) :=
  (skipNewline (skipBlanks cs)).map skipSpacing

theorem length_lt_of_skipNewline {cs after : List Char} (h : skipNewline cs = some after) :
    after.length < cs.length := by
  unfold skipNewline at h
  split at h
  · simp_all
  · simp only [Option.some.injEq] at h
    simp only [← h, List.length_cons]
    omega
  · simp at h

theorem length_skipSpacing_le (cs : List Char) : (skipSpacing cs).length ≤ cs.length := by
  fun_induction skipSpacing cs with
  | case1 rest ih => simp only [List.length_cons]; omega
  | case2 c rest _ _ ih => simp only [List.length_cons]; omega
  | case3 => exact Nat.le_refl _
  | case4 => exact Nat.le_refl _

theorem length_le_of_skipContinuation {cs after : List Char}
    (h : skipContinuation cs = some after) : after.length ≤ cs.length := by
  simp only [skipContinuation, Option.map_eq_some_iff] at h
  obtain ⟨rest, hr, rfl⟩ := h
  have h₁ := length_lt_of_skipNewline hr
  have h₂ := (List.dropWhile_suffix (l := cs) isBlank).length_le
  have h₃ := length_skipSpacing_le rest
  simp only [skipBlanks] at h₁
  omega

/-- Closes a text of several lines: three quotes, of which up to two before them belong to it. -/
def closeLines (quote : Char) : List Char → Read (List Char)
  | a :: b :: c :: d :: e :: rest =>
    if a = quote ∧ b = quote ∧ c = quote then
      if d = quote ∧ e = quote then some ([quote, quote], rest)
      else if d = quote then some ([quote], e :: rest)
      else some ([], d :: e :: rest)
    else none
  | [a, b, c, d] =>
    if a = quote ∧ b = quote ∧ c = quote then
      if d = quote then some ([quote], []) else some ([], [d])
    else none
  | [a, b, c] => if a = quote ∧ b = quote ∧ c = quote then some ([], []) else none
  | _ => none

/-- Reads a text of several lines with escapes, behind its opening quotes. -/
def readBasicLines (cs : List Char) : Read (List Char) :=
  match closeLines '"' cs with
  | some closed => some closed
  | none =>
    match cs with
    | [] => none
    | '\\' :: rest =>
      match hc : skipContinuation rest with
      | some after =>
        have := length_le_of_skipContinuation hc
        readBasicLines after
      | none =>
        match h : readEscape rest with
        | none => none
        | some (c, after) =>
          have := length_lt_of_readEscape h
          consRead c (readBasicLines after)
    | '\n' :: rest => consRead '\n' (readBasicLines rest)
    | '\r' :: '\n' :: rest => consRead '\r' (consRead '\n' (readBasicLines rest))
    | c :: rest => if isTextChar c then consRead c (readBasicLines rest) else none
termination_by cs.length

/-- Reads a text of several lines as it is, behind its opening quotes. -/
def readLiteralLines (cs : List Char) : Read (List Char) :=
  match closeLines '\'' cs with
  | some closed => some closed
  | none =>
    match cs with
    | [] => none
    | '\n' :: rest => consRead '\n' (readLiteralLines rest)
    | '\r' :: '\n' :: rest => consRead '\r' (consRead '\n' (readLiteralLines rest))
    | c :: rest => if isTextChar c then consRead c (readLiteralLines rest) else none
termination_by cs.length

/-- Skips the line break right behind the opening quotes. -/
def skipFirstBreak (cs : List Char) : List Char :=
  (skipNewline cs).getD cs

/-- Reads a text of any kind; `none` also if there is no text. -/
def readText : List Char → Read (List Char)
  | '"' :: '"' :: '"' :: rest => readBasicLines (skipFirstBreak rest)
  | '\'' :: '\'' :: '\'' :: rest => readLiteralLines (skipFirstBreak rest)
  | '"' :: rest => readBasic rest
  | '\'' :: rest => readLiteral rest
  | _ => none

/-- A character of a bare key. -/
def isKeyChar (c : Char) : Bool :=
  c.isAlphanum || c == '_' || c == '-'

/-- Reads a part of a key. -/
def readKeyPart (cs : List Char) : Read String :=
  match cs with
  | '"' :: rest => (readBasic rest).map fun (text, rest) => (String.ofList text, rest)
  | '\'' :: rest => (readLiteral rest).map fun (text, rest) => (String.ofList text, rest)
  | _ =>
    let word := cs.takeWhile isKeyChar
    if word.isEmpty then none else some (String.ofList word, cs.dropWhile isKeyChar)

/-- A key: parts from the outside in, the last of which names what the key is for. -/
structure Key where
  path : List String
  last : String
  deriving DecidableEq, Repr

/-- Reads a key of at most `limit` parts, joined by dots, with blanks around each. -/
def readKeyParts : Nat → List Char → Option (Key × List Char)
  | 0, _ => none
  | limit + 1, cs => do
    let (part, rest) ← readKeyPart (skipBlanks cs)
    match skipBlanks rest with
    | '.' :: rest =>
      let (key, rest) ← readKeyParts limit rest
      return ({ key with path := part :: key.path }, rest)
    | rest => return (⟨[], part⟩, rest)

/-- How deep tables and arrays may be nested, and how many parts a key may have. -/
def nestingLimit : Nat := 80

/-- Reads a key with the blanks around it. -/
def readKey (cs : List Char) : Read Key :=
  readKeyParts nestingLimit cs

end CubeClient.Toml
