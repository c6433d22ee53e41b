import CubeClient.Number.Binary
import CubeClient.Number.Integer
import CubeClient.Time.Calendar
import CubeClient.Toml.Text

/-!
# Numbers, truth values and dates of settings files

What is written without quotes is one word, and the whole word decides what it is. Digits may be
grouped by single underscores between them. A date is followed by its time behind a `T` or behind
one blank, which is the only blank inside a word.
-/

namespace CubeClient.Toml

open CubeClient.Number
open CubeClient.Text

/-- A value that holds no other. A date is kept as it is written. -/
inductive Scalar where
  | text (content : String)
  | integer (value : Int)
  | float (bits : Nat)
  | boolean (value : Bool)
  | moment (written : String)
  deriving DecidableEq, Repr

/-- Digits without the underscores between them. -/
def groupedDigits? (isDigit : Char → Bool) : List Char → Option (List Char)
  | [] => none
  | [c] => if isDigit c then some [c] else none
  | c :: '_' :: rest =>
    if isDigit c then (groupedDigits? isDigit rest).map (c :: ·) else none
  | c :: rest => if isDigit c then (groupedDigits? isDigit rest).map (c :: ·) else none

/-- The digits of a decimal number, which has no zero in front unless it is zero itself. -/
def decimalDigits? (cs : List Char) : Option (List Char) :=
  (groupedDigits? isDigit cs).bind fun digits =>
    match digits with
    | '0' :: _ :: _ => none
    | _ => some digits

/-- Whether a word has a minus sign in front, and what is behind its sign. -/
def splitSign : List Char → Bool × List Char
  | '-' :: rest => (true, rest)
  | '+' :: rest => (false, rest)
  | cs => (false, cs)

/-- The natural number that digits of a base write. -/
def readBased? (base : Nat) (cs : List Char) : Option Int :=
  (groupedDigits? (fun c => (digitValueIn? base c).isSome) cs).map fun digits =>
    ((digits.foldl (fun acc c => acc * base + (digitValueIn? base c).getD 0) 0 : Nat) : Int)

/-- The integer that a word writes: a decimal one with its sign, or one of another base. -/
def readUnrangedInteger? : List Char → Option Int
  | '0' :: 'x' :: digits => readBased? 16 digits
  | '0' :: 'o' :: digits => readBased? 8 digits
  | '0' :: 'b' :: digits => readBased? 2 digits
  | word =>
    let (negative, magnitude) := splitSign word
    (decimalDigits? magnitude).map fun digits =>
      if negative then -(digitsValue digits : Int) else digitsValue digits

/-- The integers that a file may hold. -/
def integerRange : IntegerRange :=
  ⟨(IntegerRange.signed 128).low, (IntegerRange.unsigned 128).high⟩

/-- Reads an integer. -/
def readInteger? (word : List Char) : Option Int :=
  (readUnrangedInteger? word).filter fun value =>
    integerRange.low ≤ value && value ≤ integerRange.high

/-- The letter of an exponent. -/
def isExponentLetter (c : Char) : Bool :=
  c == 'e' || c == 'E'

/-- An exponent with its letter, without underscores; nothing stands for no exponent. -/
def exponentText? : List Char → Option (List Char)
  | [] => some []
  | letter :: rest =>
    if isExponentLetter letter then
      let (negative, magnitude) := splitSign rest
      (groupedDigits? isDigit magnitude).map fun digits =>
        if negative then 'e' :: '-' :: digits else 'e' :: digits
    else none

/-- A fraction with its point and what is behind it, without underscores. -/
def fractionText? : List Char → Option (List Char)
  | '.' :: rest => do
    let digits ← groupedDigits? isDigit (rest.takeWhile (!isExponentLetter ·))
    let exponent ← exponentText? (rest.dropWhile (!isExponentLetter ·))
    return '.' :: digits ++ exponent
  | rest => exponentText? rest

/-- A decimal number that is no integer, without underscores and sign. -/
def magnitudeText? (cs : List Char) : Option (List Char) :=
  if cs = ['i', 'n', 'f'] ∨ cs = ['n', 'a', 'n'] then some cs
  else do
    let isWhole := fun c => c != '.' && !isExponentLetter c
    let whole ← decimalDigits? (cs.takeWhile isWhole)
    let rest ← fractionText? (cs.dropWhile isWhole)
    if rest.isEmpty then none else some (whole ++ rest)

/-- Reads a number that is no integer, as the bits of the nearest double. Infinity is written by its
name only. -/
def readFloat? (word : List Char) : Option Nat := do
  let (negative, magnitude) := splitSign word
  let text ← magnitudeText? magnitude
  let bits ← BinaryFormat.double.readMagnitude? text
  if bits = BinaryFormat.double.infinityBits ∧ text ≠ ['i', 'n', 'f'] then none
  else some (if negative then bits + BinaryFormat.double.signBit else bits)

/-- Reads a number of exactly so many digits. -/
def readFixed (width : Nat) (cs : List Char) : Read Nat :=
  let digits := (cs.take width).takeWhile isDigit
  if digits.length = width then some (digitsValue digits, cs.drop width) else none

/-- Skips a character. -/
def skipChar (expected : Char) : List Char → Option (List Char)
  | [] => none
  | c :: rest => if c = expected then some rest else none

/-- Reads a date: four, two and two digits with hyphens between them. -/
def readDate (cs : List Char) : Option (CivilDate × List Char) := do
  let (year, rest) ← readFixed 4 cs
  let (month, rest) ← readFixed 2 (← skipChar '-' rest)
  let (day, rest) ← readFixed 2 (← skipChar '-' rest)
  return (⟨year, month, day⟩, rest)

/-- Skips the fraction of a second, if there is one. -/
def skipFraction : List Char → Option (List Char)
  | '.' :: rest => if rest.head?.any isDigit then some (rest.dropWhile isDigit) else none
  | rest => some rest

/-- Reads the seconds of a time of day with their colon and fraction; they may be left out. -/
def readSeconds : List Char → Option (Nat × List Char)
  | ':' :: rest => do
    let (second, rest) ← readFixed 2 rest
    return (second, ← skipFraction rest)
  | rest => some (0, rest)

/-- Reads a time of day. -/
def readClock (cs : List Char) : Option (ClockTime × List Char) := do
  let (hour, rest) ← readFixed 2 cs
  let (minute, rest) ← readFixed 2 (← skipChar ':' rest)
  let (second, rest) ← readSeconds rest
  return (⟨hour, minute, second⟩, rest)

/-- Whether a text is an offset from the time of Greenwich, or nothing. -/
def isOffset : List Char → Bool
  | [] => true
  | ['Z'] => true
  | ['z'] => true
  | sign :: cs =>
    let offset? : Option (Nat × Nat × List Char) := do
      let (hours, rest) ← readFixed 2 cs
      let (minutes, rest) ← readFixed 2 (← skipChar ':' rest)
      return (hours, minutes, rest)
    (sign == '+' || sign == '-') &&
      offset?.any fun (hours, minutes, rest) => hours < 24 && minutes < 60 && rest.isEmpty

/-- Whether a text is a time of day, with something behind it that `tail` admits. -/
def isClock (tail : List Char → Bool) (cs : List Char) : Bool :=
  (readClock cs).any fun (time, rest) => time.isValid && tail rest

/-- Whether a word is a date, a time of day, or both, in which case an offset may follow. -/
def isMoment (word : List Char) : Bool :=
  match readDate word with
  | none => isClock List.isEmpty word
  | some (date, []) => date.isValid
  | some (date, separator :: rest) =>
    date.isValid && (separator == 'T' || separator == 't' || separator == ' ') &&
      isClock isOffset rest

/-- The value of a whole word. -/
def scalarOfWord? (word : List Char) : Option Scalar :=
  if word = ['t', 'r', 'u', 'e'] then some (.boolean true)
  else if word = ['f', 'a', 'l', 's', 'e'] then some (.boolean false)
  else
    match readInteger? word with
    | some value => some (.integer value)
    | none =>
      match readFloat? word with
      | some bits => some (.float bits)
      | none => if isMoment word then some (.moment (String.ofList word)) else none

/-- A character of a word. -/
def isWordChar (c : Char) : Bool :=
  c.isAlphanum || c == '_' || c == '-' || c == '+' || c == '.' || c == ':'

/-- Splits off the word at the front. A date takes the time behind one blank with it. -/
def splitWord (cs : List Char) : List Char × List Char :=
  let word := cs.takeWhile isWordChar
  let rest := cs.dropWhile isWordChar
  match readDate word, rest with
  | some (_, []), ' ' :: more =>
    if more.head?.any isDigit then
      (word ++ ' ' :: more.takeWhile isWordChar, more.dropWhile isWordChar)
    else (word, rest)
  | _, _ => (word, rest)

/-- Reads a value that holds no other. -/
def readScalar (cs : List Char) : Option (Scalar × List Char) :=
  match cs with
  | '"' :: _ => (readText cs).map fun (text, rest) => (.text (String.ofList text), rest)
  | '\'' :: _ => (readText cs).map fun (text, rest) => (.text (String.ofList text), rest)
  | _ =>
    let (word, rest) := splitWord cs
    (scalarOfWord? word).map fun scalar => (scalar, rest)

end CubeClient.Toml
