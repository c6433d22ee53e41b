import CubeClient.Text.Ascii

/-!
# Integers in text

An integer is an optional sign and ASCII decimal digits. Reading goes from left to right and stops
at the first problem; where one digit is both wrong and too much, it is reported as wrong. A range
without negative numbers takes no minus sign.

`readUnbounded` reads integers of any size. It allows underscores between and after digits, as long
as a digit comes first.
-/

namespace CubeClient.Number

open CubeClient.Text

/-- Why a text is not an integer of the wanted range. -/
inductive IntegerFault where
  | empty
  | invalidDigit
  | tooLarge
  | tooSmall
  deriving DecidableEq, Repr

/-- The wording of an integer fault. -/
def IntegerFault.message : IntegerFault → String
  | .empty => "cannot parse integer from empty string"
  | .invalidDigit => "invalid digit found in string"
  | .tooLarge => "number too large to fit in target type"
  | .tooSmall => "number too small to fit in target type"

/-- The integers from `low` to `high`. -/
structure IntegerRange where
  low : Int
  high : Int
  deriving DecidableEq, Repr

namespace IntegerRange

/-- The signed words of a number of bits. -/
def signed (bits : Nat) : IntegerRange :=
  ⟨-(Nat.pow 2 (bits - 1) : Int), (Nat.pow 2 (bits - 1) : Int) - 1⟩

/-- The unsigned words of a number of bits. -/
def unsigned (bits : Nat) : IntegerRange :=
  ⟨0, (Nat.pow 2 bits : Int) - 1⟩

/-- Adds the digits of `cs` to `acc`, away from zero in the direction of the sign. -/
def readDigits (range : IntegerRange) (negative : Bool) : Int → List Char → Except IntegerFault Int
  | acc, [] => .ok acc
  | acc, c :: cs =>
    match digitValue? c with
    | none => .error .invalidDigit
    | some d =>
      let value := if negative then acc * 10 - d else acc * 10 + d
      if range.high < value then .error .tooLarge
      else if value < range.low then .error .tooSmall
      else readDigits range negative value cs

/-- Reads an integer of the range. A sign with nothing behind it is an invalid digit. -/
def readList (range : IntegerRange) : List Char → Except IntegerFault Int
  | [] => .error .empty
  | '+' :: [] => .error .invalidDigit
  | '-' :: [] => .error .invalidDigit
  | '+' :: cs => range.readDigits false 0 cs
  | '-' :: cs =>
    if range.low < 0 then range.readDigits true 0 cs else .error .invalidDigit
  | cs => range.readDigits false 0 cs

/-- Reads an integer of the range. -/
def read (range : IntegerRange) (text : String) : Except IntegerFault Int :=
  range.readList text.toList

end IntegerRange

/-- The number written by digits and underscores, given the number read so far. -/
def readLooseDigits : Nat → List Char → Except IntegerFault Nat
  | acc, [] => .ok acc
  | acc, '_' :: cs => readLooseDigits acc cs
  | acc, c :: cs =>
    match digitValue? c with
    | none => .error .invalidDigit
    | some d => readLooseDigits (acc * 10 + d) cs

/-- Reads a natural number of any size, with at most one plus sign. -/
def readUnboundedNat (cs : List Char) : Except IntegerFault Nat :=
  let digits :=
    match cs with
    | '+' :: '+' :: _ => cs
    | '+' :: rest => rest
    | _ => cs
  match digits with
  | [] => .error .empty
  | '_' :: _ => .error .invalidDigit
  | _ => readLooseDigits 0 digits

/-- Reads an integer of any size. -/
def readUnboundedList (cs : List Char) : Except IntegerFault Int :=
  match cs with
  | '-' :: '+' :: _ => (readUnboundedNat cs).map fun n => -(n : Int)
  | '-' :: rest => (readUnboundedNat rest).map fun n => -(n : Int)
  | _ => (readUnboundedNat cs).map fun n => (n : Int)

/-- Reads an integer of any size. -/
def readUnbounded (text : String) : Except IntegerFault Int :=
  readUnboundedList text.toList

end CubeClient.Number
