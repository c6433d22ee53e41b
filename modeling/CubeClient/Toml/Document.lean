import CubeClient.Toml.Value

/-!
# Settings files

A file is a list of statements, each on a line of its own: a key with its value, the header of a
table, or a repeated header. A key belongs to the table of the header before it.
-/

namespace CubeClient.Toml

/-- What a line of a file says. -/
inductive Statement where
  | value (key : Key) (item : Item)
  | table (key : Key)
  | nextTable (key : Key)

/-- Skips some characters. -/
def skipChars : List Char → List Char → Option (List Char)
  | [], cs => some cs
  | expected :: more, cs => (skipChar expected cs).bind (skipChars more)

/-- Reads a key between brackets. -/
def readHeader (opening closing : List Char) (cs : List Char) : Option (Key × List Char) := do
  let (key, rest) ← readKey (← skipChars opening cs)
  return (key, ← skipChars closing rest)

/-- Reads a statement from its first character. -/
def readStatement (cs : List Char) : Read Statement :=
  match cs with
  | '[' :: '[' :: _ =>
    (readHeader ['[', '['] [']', ']'] cs).map fun (key, rest) => (.nextTable key, rest)
  | '[' :: _ => (readHeader ['['] [']'] cs).map fun (key, rest) => (.table key, rest)
  | _ =>
    (readPair (some <| skipBlanks ·) readItem cs).map fun ((key, item), rest) =>
      (.value key item, rest)

/-- Reads the statements of a file, of which there are at most `limit`. -/
def readStatements : Nat → List Char → Option (List Statement)
  | 0, _ => none
  | limit + 1, cs =>
    match skipGaps cs with
    | none => none
    | some [] => some []
    | some cs =>
      match readStatement cs with
      | none => none
      | some (statement, rest) =>
        (skipLineEnd (skipBlanks rest)).bind fun rest =>
          (readStatements limit rest).map (statement :: ·)

/-- A table under way, with the way from the outermost table to the one that keys belong to. -/
structure Draft where
  root : Table
  current : List String

namespace Draft

/-- Nothing yet; keys belong to the outermost table. -/
def empty : Draft :=
  ⟨⟨.opened, []⟩, []⟩

/-- Takes up a statement. -/
def add (draft : Draft) : Statement → Option Draft
  | .value key item =>
    (Table.changeAt .header (fun table => table.addValue key item) draft.current draft.root).map
      fun root => { draft with root }
  | .table key =>
    (draft.root.openTable key).map fun root => ⟨root, key.path ++ [key.last]⟩
  | .nextTable key =>
    (draft.root.openNext key).map fun root => ⟨root, key.path ++ [key.last]⟩

end Draft

/-- The mark that may stand in front of a file. -/
def byteOrderMark : Char := '\uFEFF'

/-- Everything behind the mark. -/
def skipMark : List Char → List Char
  | [] => []
  | c :: rest => if c = byteOrderMark then rest else c :: rest

/-- The table that a file writes. -/
def read? (text : String) : Option Table := do
  let cs := skipMark text.toList
  let statements ← readStatements (cs.length + 1) cs
  let draft ← statements.foldlM Draft.add Draft.empty
  return draft.root

end CubeClient.Toml
