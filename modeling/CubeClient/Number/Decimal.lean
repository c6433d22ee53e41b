import CubeClient.Number.Integer

/-!
# Decimals of any size

A decimal is kept exactly as it was written: the integer made of all its digits and the scale that
says how many of them stand behind the point. `1.20` and `1.2` are the same number and different
decimals; the scale of `1e5` is negative.
-/

namespace CubeClient.Number

/-- The number `digits * 10 ^ (-scale)`. -/
structure Decimal where
  digits : Int
  scale : Int
  deriving DecidableEq, Repr

namespace Decimal

/-- Splits a text at the first letter that starts an exponent. -/
def splitExponent (cs : List Char) : List Char × Option (List Char) :=
  let base := cs.takeWhile fun c => c != 'e' && c != 'E'
  match cs.drop base.length with
  | [] => (base, none)
  | _ :: exponent => (base, some exponent)

/-- Takes the point out of a text and counts the digits behind it; an underscore is no digit, and a
point at the very end counts for nothing. -/
def splitPoint (base : List Char) : List Char × Nat :=
  let lead := base.takeWhile (· != '.')
  match base.drop lead.length with
  | [] => (base, 0)
  | _ :: trail => (lead ++ trail, (trail.filter (· != '_')).length)

/-- Reads a decimal. The exponent has to fit 128 bits and the scale 64. -/
def read? (text : String) : Option Decimal := do
  let (base, exponentText) := splitExponent text.toList
  let exponent ←
    match exponentText with
    | none => some 0
    | some cs => ((IntegerRange.signed 128).readList cs).toOption
  guard !base.isEmpty
  let (digitText, behindPoint) := splitPoint base
  let scale := (behindPoint : Int) - exponent
  let range := IntegerRange.signed 64
  guard (range.low ≤ scale ∧ scale ≤ range.high)
  let digits ← (readUnboundedList digitText).toOption
  return ⟨digits, scale⟩

end Decimal

end CubeClient.Number
