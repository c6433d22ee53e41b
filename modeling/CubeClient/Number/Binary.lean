import CubeClient.Text.Ascii

/-!
# Binary floating-point numbers

`BinaryFormat.read?` reads a decimal text as the nearest number of a binary format, a tie going to
the even neighbour, and answers its bit pattern. All arithmetic is on natural numbers: the text is
the exact fraction `num / den`, the last place of the result is `2 ^ place` for the largest `place`
that keeps all significant bits, and the quotient is rounded once.
-/

namespace CubeClient.Number

open CubeClient.Text

/-- A binary interchange format: the bits of the significand, its leading bit counted, and the width
of the exponent field. -/
structure BinaryFormat where
  precision : Nat
  exponentBits : Nat
  deriving DecidableEq, Repr

/-- The 64-bit format. -/
def BinaryFormat.double : BinaryFormat := ⟨53, 11⟩

/-- The 32-bit format. -/
def BinaryFormat.single : BinaryFormat := ⟨24, 8⟩

/-- The nearest integer to `num / den`; of two equally near the even one. -/
def roundHalfEven (num den : Nat) : Nat :=
  let q := num / den
  let r := num % den
  if 2 * r < den then q
  else if den < 2 * r then q + 1
  else if q % 2 == 0 then q else q + 1

namespace BinaryFormat

/-- The exponent of the last place of the smallest positive number. -/
def minPlace (f : BinaryFormat) : Int :=
  3 - (Nat.pow 2 (f.exponentBits - 1) : Int) - f.precision

/-- The bit pattern of positive infinity. -/
def infinityBits (f : BinaryFormat) : Nat :=
  (Nat.pow 2 f.exponentBits - 1) * Nat.pow 2 (f.precision - 1)

/-- The bit pattern of a quiet NaN. -/
def nanBits (f : BinaryFormat) : Nat :=
  f.infinityBits + Nat.pow 2 (f.precision - 2)

/-- The bit that marks a negative number. -/
def signBit (f : BinaryFormat) : Nat :=
  Nat.pow 2 (f.precision - 1 + f.exponentBits)

/-- Whether a bit pattern is a NaN. -/
def isNaN (f : BinaryFormat) (bits : Nat) : Bool :=
  f.infinityBits < bits % f.signBit

/-- The exponent of the leading bit of `num / den`, both positive. -/
def leadingBit (num den : Nat) : Int :=
  let k : Int := (num.log2 : Int) - den.log2
  let below :=
    if 0 ≤ k then num < den * Nat.pow 2 k.toNat else num * Nat.pow 2 (-k).toNat < den
  if below then k - 1 else k

/-- The bit pattern of the number nearest to `num / den`, or of infinity. Places are counted from
the smallest, so a subnormal number and a carry into the next exponent need no case of their own. -/
def ofFraction (f : BinaryFormat) (num den : Nat) : Nat :=
  if num = 0 then 0
  else
    let place := max (leadingBit num den - (f.precision - 1 : Nat)) f.minPlace
    let q :=
      if 0 ≤ place then roundHalfEven num (den * Nat.pow 2 place.toNat)
      else roundHalfEven (num * Nat.pow 2 (-place).toNat) den
    min f.infinityBits ((place - f.minPlace).toNat * Nat.pow 2 (f.precision - 1) + q)

/-- Beyond this power of ten every number of either format is infinite or zero. -/
def exponentLimit : Int := 400

/-- The bit pattern of the number nearest to `digits * 10 ^ exponent`, where `count` decimal digits
write `digits`. -/
def ofDecimal (f : BinaryFormat) (digits count : Nat) (exponent : Int) : Nat :=
  if digits = 0 then 0
  else if exponentLimit < count + exponent then f.infinityBits
  else if count + exponent < -exponentLimit then 0
  else if 0 ≤ exponent then f.ofFraction (digits * Nat.pow 10 exponent.toNat) 1
  else f.ofFraction digits (Nat.pow 10 (-exponent).toNat)

end BinaryFormat

/-- The value of decimal digits. -/
def digitsValue (cs : List Char) : Nat :=
  cs.foldl (fun acc c => acc * 10 + (digitValue? c).getD 0) 0

/-- Whether a character is an ASCII decimal digit. -/
def isDigit (c : Char) : Bool :=
  (digitValue? c).isSome

/-- An exponent so large that its last digits make no difference is not read further. -/
def exponentCap : Nat := 0x10000

/-- The value of the digits of an exponent, of which those beyond `exponentCap` are ignored. -/
def cappedValue (cs : List Char) : Nat :=
  cs.foldl (fun acc c => if acc < exponentCap then acc * 10 + (digitValue? c).getD 0 else acc) 0

/-- Reads an exponent with its letter, or nothing at all. -/
def readExponent? : List Char → Option Int
  | [] => some 0
  | c :: rest =>
    if c == 'e' || c == 'E' then
      let (negative, digits) :=
        match rest with
        | '-' :: ds => (true, ds)
        | '+' :: ds => (false, ds)
        | _ => (false, rest)
      if digits.isEmpty || !digits.all isDigit then none
      else some (if negative then -(cappedValue digits : Int) else cappedValue digits)
    else none

namespace BinaryFormat

/-- Reads a number without sign. -/
def readMagnitude? (f : BinaryFormat) (cs : List Char) : Option Nat :=
  let lead := cs.takeWhile isDigit
  let afterLead := cs.drop lead.length
  let (trail, rest) :=
    match afterLead with
    | '.' :: more => (more.takeWhile isDigit, more.dropWhile isDigit)
    | _ => ([], afterLead)
  let all := lead ++ trail
  if all.isEmpty then
    let word := String.ofList (cs.map lowerChar)
    if word == "inf" || word == "infinity" then some f.infinityBits
    else if word == "nan" then some f.nanBits
    else none
  else
    (readExponent? rest).map fun exponent =>
      let significant := all.dropWhile (· == '0')
      f.ofDecimal (digitsValue significant) significant.length (exponent - trail.length)

/-- Reads a decimal text with optional sign, fraction and exponent, or the name of an infinity or of
a NaN, and answers the bit pattern. -/
def read? (f : BinaryFormat) (text : String) : Option Nat :=
  match text.toList with
  | '-' :: cs => (f.readMagnitude? cs).map (· + f.signBit)
  | '+' :: cs => f.readMagnitude? cs
  | cs => f.readMagnitude? cs

end BinaryFormat

end CubeClient.Number
