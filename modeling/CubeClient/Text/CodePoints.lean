import CubeClient.Text.Ascii
import CubeClient.Text.Split

/-!
# Tables of code points

A property of characters is given by the ranges of code points that have it, in order. What
characters stand for is given by rows: a row is a run of code points one after the other and what
each of them stands for.

A row is written as words: the first code point, then what it and the ones behind it stand for. A
word is the code points of a text joined by plus signs, in hexadecimal, or a hyphen for a code point
that has no entry.
-/

namespace CubeClient.Text

/-- Whether a code point is in one of some ranges. -/
def inRanges (ranges : List (Nat × Nat)) (n : Nat) : Bool :=
  ranges.any fun (low, high) => low ≤ n && n ≤ high

/-- A run of code points with what each of them stands for. -/
structure CodeRow where
  first : Nat
  entries : List (Option (List Nat))
  deriving Repr

namespace CodeRow

/-- The number of a hexadecimal word. -/
def number (word : List Char) : Nat :=
  word.foldl (fun acc c => acc * 16 + (digitValueIn? 16 c).getD 0) 0

/-- The entry that a word writes. -/
def entry (word : List Char) : Option (List Nat) :=
  if word = ['-'] then none else some ((splitAt '+' word).map number)

/-- The row that a text writes. -/
def ofText (text : String) : CodeRow :=
  match splitAt ' ' text.toList with
  | [] => ⟨0, []⟩
  | first :: words => ⟨number first, words.map entry⟩

/-- What a code point stands for by a row. -/
def get? (row : CodeRow) (n : Nat) : Option (List Nat) :=
  if n < row.first then none else row.entries[n - row.first]?.join

/-- What a code point stands for by the first row that has it. -/
def lookup? (rows : List CodeRow) (n : Nat) : Option (List Nat) :=
  rows.findSome? (·.get? n)

/-- The code points that stand for a text. -/
def inverse? (rows : List CodeRow) (text : List Nat) : Option Nat :=
  rows.findSome? fun row => (row.entries.findIdx? (· == some text)).map (row.first + ·)

end CodeRow

end CubeClient.Text
