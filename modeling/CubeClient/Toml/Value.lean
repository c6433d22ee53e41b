import CubeClient.Toml.Table

/-!
# Values of settings files

A value is a scalar, an array between brackets, or a table between braces. Both may go over several
lines and hold comments, and may end in a comma. Outside of braces, a key stands on one line with
the beginning of its value.
-/

namespace CubeClient.Toml

/-- Skips a comment, if there is one. -/
def skipComment : List Char → List Char
  | '#' :: comment => comment.dropWhile isTextChar
  | cs => cs

/-- Skips a comment, if there is one, and the end of the line; the file may end there. -/
def skipLineEnd (cs : List Char) : Option (List Char) :=
  if (skipComment cs).isEmpty then some [] else skipNewline (skipComment cs)

theorem length_skipComment_le (cs : List Char) : (skipComment cs).length ≤ cs.length := by
  unfold skipComment
  split
  · next comment =>
    have := (List.dropWhile_suffix (l := comment) isTextChar).length_le
    simp only [List.length_cons]
    omega
  · exact Nat.le_refl _

theorem length_lt_of_skipLineEnd {cs after : List Char} (h : skipLineEnd cs = some after)
    (hne : cs ≠ []) : after.length < cs.length := by
  unfold skipLineEnd at h
  split at h
  · obtain rfl : [] = after := Option.some.inj h
    exact List.length_pos_iff.2 hne
  · exact Nat.lt_of_lt_of_le (length_lt_of_skipNewline h) (length_skipComment_le cs)

/-- Skips blanks, ends of lines and comments. -/
def skipGaps (cs : List Char) : Option (List Char) :=
  match h : skipBlanks cs with
  | [] => some []
  | c :: rest =>
    if c = '#' ∨ c = '\n' ∨ c = '\r' then
      match he : skipLineEnd (c :: rest) with
      | none => none
      | some after =>
        have : after.length < cs.length := by
          have h₁ := length_lt_of_skipLineEnd he (by simp)
          have h₂ := (List.dropWhile_suffix (l := cs) isBlank).length_le
          simp only [skipBlanks] at h
          rw [h] at h₂
          omega
        skipGaps after
    else some (c :: rest)
termination_by cs.length

/-- Reads the items of an array behind its opening bracket, of which there are at most `limit`. -/
def readItems (readItem : List Char → Read Item) : Nat → List Char → Read (List Item)
  | 0, _ => none
  | limit + 1, cs =>
    match skipGaps cs with
    | none => none
    | some (']' :: rest) => some ([], rest)
    | some cs =>
      match readItem cs with
      | none => none
      | some (item, rest) =>
        match skipGaps rest with
        | some (',' :: rest) =>
          (readItems readItem limit rest).map fun (items, rest) => (item :: items, rest)
        | some (']' :: rest) => some ([item], rest)
        | _ => none

/-- Reads a key with its value; `skip` skips what may stand around the equals sign. -/
def readPair (skip : List Char → Option (List Char)) (readItem : List Char → Read Item)
    (cs : List Char) : Read (Key × Item) :=
  (readKey cs).bind fun (key, rest) =>
    match skip rest with
    | some ('=' :: rest) =>
      ((skip rest).bind readItem).map fun (item, rest) => ((key, item), rest)
    | _ => none

/-- Reads the keys of a table between braces behind its opening brace, of which there are at most
`limit` more; `table` has those that have been read. -/
def readMembers (readItem : List Char → Read Item) : Nat → Table → List Char → Read Table
  | 0, _, _ => none
  | limit + 1, table, cs =>
    match skipGaps cs with
    | none => none
    | some ('\x7d' :: rest) => some (table, rest)
    | some cs =>
      match readPair skipGaps readItem cs with
      | none => none
      | some ((key, item), rest) =>
        match table.addValue key item with
        | none => none
        | some table =>
          match skipGaps rest with
          | some (',' :: rest) => readMembers readItem limit table rest
          | some ('\x7d' :: rest) => some (table, rest)
          | _ => none

/-- Reads a table between braces behind its opening brace. -/
def readInlined (readItem : List Char → Read Item) (cs : List Char) : Read Table :=
  readMembers readItem (cs.length + 1) ⟨.inlined, []⟩ cs

/-- Reads a value in which at most `depth` arrays and tables are within one another. -/
def readItemWithin (depth : Nat) (cs : List Char) : Read Item :=
  match depth, cs with
  | depth + 1, '[' :: rest =>
    (readItems (readItemWithin depth) (rest.length + 1) rest).map fun (items, rest) =>
      (.array items, rest)
  | depth + 1, '\x7b' :: rest =>
    (readInlined (readItemWithin depth) rest).map fun (table, rest) => (table.toItem, rest)
  | _, _ => (readScalar cs).map fun (scalar, rest) => (.scalar scalar, rest)

/-- Reads a value. -/
def readItem (cs : List Char) : Read Item :=
  readItemWithin nestingLimit cs

end CubeClient.Toml
