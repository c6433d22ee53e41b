import CubeClient.Error
import CubeClient.Url.HostName

/-!
# Numeric addresses

A host whose last label is a number is an IPv4 address: up to four numbers, each decimal, octal
behind a `0` or hexadecimal behind `0x`, of which the last fills all bytes that are left. It is
written with four decimal numbers.

A host in square brackets is an IPv6 address: eight groups of hexadecimal digits, of which one run
of zeros may be left out, and of which the last two may be written as an IPv4 address. It is written
with its first longest run of zeros left out.
-/

namespace CubeClient.Url

open CubeClient.Text

/-- The value of digits in a base; `none` if one of them is no digit. -/
def valueInBase? (base : Nat) (digits : List Char) : Option Nat :=
  digits.foldl (fun acc c => do
    let acc ← acc
    let value ← digitValueIn? base c
    some (acc * base + value)) (some 0)

/-- Reads one number of an IPv4 address. -/
def ipv4Number? : List Char → Option Nat
  | [] => none
  | '0' :: 'x' :: digits => valueInBase? 16 digits
  | '0' :: 'X' :: digits => valueInBase? 16 digits
  | ['0'] => some 0
  | '0' :: digits => valueInBase? 8 digits
  | digits => valueInBase? 10 digits

/-- The labels of a name, without an empty one at the end. -/
def labelsOf (name : List Char) : List (List Char) :=
  let labels := splitAt '.' name
  if labels.length ≠ 1 ∧ labels.getLast? = some [] then labels.dropLast else labels

/-- Whether a name stands for an IPv4 address. -/
def endsInNumber (name : List Char) : Bool :=
  match (labelsOf name).getLast? with
  | none => false
  | some label =>
    (!label.isEmpty && label.all fun c => '0' ≤ c && c ≤ '9') || (ipv4Number? label).isSome

/-- The address of the numbers before the last and the last one. -/
def ipv4OfNumbers? (leading : List Nat) (last : Nat) : Option Nat :=
  if leading.length < 4 ∧ last < Nat.pow 256 (4 - leading.length) ∧ leading.all (· < 256) then
    some (leading.foldl (fun acc n => acc * 256 + n) 0 * Nat.pow 256 (4 - leading.length) + last)
  else none

/-- Reads an IPv4 address. -/
def readIpv4? (name : List Char) : Option Nat :=
  match (labelsOf name).mapM ipv4Number? with
  | none => none
  | some numbers => numbers.getLast?.bind (ipv4OfNumbers? numbers.dropLast)

/-- An IPv4 address with four decimal numbers. -/
def renderIpv4 (address : Nat) : String :=
  ".".intercalate <| [3, 2, 1, 0].map fun place =>
    toString (address / Nat.pow 256 place % 256)

/-- Reads a group of an IPv6 address. -/
def ipv6Group? (digits : List Char) : Option Nat :=
  if digits.isEmpty ∨ 4 < digits.length then none else valueInBase? 16 digits

/-- Reads a number of an IPv4 address inside an IPv6 address: decimal, without leading zeros. -/
def plainByte? (digits : List Char) : Option Nat :=
  match digits with
  | [] => none
  | '0' :: _ :: _ => none
  | _ => (valueInBase? 10 digits).filter (· < 256)

/-- Reads the last group, or the two groups of an IPv4 address in its place. -/
def lastGroups? (text : List Char) : Option (List Nat) :=
  if text.contains '.' then
    match (splitAt '.' text).mapM plainByte? with
    | some [a, b, c, d] => some [a * 256 + b, c * 256 + d]
    | _ => none
  else (ipv6Group? text).map ([·])

/-- Reads groups separated by colons; no text holds no group. -/
def groups? (allowIpv4 : Bool) (text : List Char) : Option (List Nat) :=
  if text.isEmpty then some []
  else
    let pieces := splitAt ':' text
    match pieces.getLast? with
    | none => none
    | some last => do
      let leading ← pieces.dropLast.mapM ipv6Group?
      let ending ← if allowIpv4 then lastGroups? last else (ipv6Group? last).map ([·])
      some (leading ++ ending)

/-- Cuts a text at the first double colon. -/
def cutAtGap : List Char → Option (List Char × List Char)
  | [] => none
  | ':' :: ':' :: rest => some ([], rest)
  | c :: rest => (cutAtGap rest).map fun (before, after) => (c :: before, after)

/-- Reads an IPv6 address as its eight groups. -/
def readIpv6? (text : List Char) : Option (List Nat) :=
  match cutAtGap text with
  | none => (groups? true text).filter (·.length = 8)
  | some (before, after) => do
    let leading ← groups? false before
    let ending ← groups? true after
    if leading.length + ending.length < 8 then
      some (leading ++ List.replicate (8 - leading.length - ending.length) 0 ++ ending)
    else none

/-- How many groups at the start are zero. -/
def leadingZeros (groups : List Nat) : Nat :=
  (groups.takeWhile (· == 0)).length

/-- Where the first longest run of at least two zeros begins, and how long it is. -/
def zeroRun (groups : List Nat) : Option (Nat × Nat) :=
  (List.range groups.length).foldl (fun best start =>
    let length := leadingZeros (groups.drop start)
    if best.elim 1 Prod.snd < length then some (start, length) else best) none

/-- A group in hexadecimal, without leading zeros. -/
def renderGroup (group : Nat) : String :=
  let digits := (hexPadded 4 group).dropWhile (· == '0')
  if digits.isEmpty then "0" else String.ofList digits

/-- An IPv6 address with its first longest run of zeros left out. -/
def renderIpv6 (groups : List Nat) : String :=
  let text (part : List Nat) := ":".intercalate (part.map renderGroup)
  match zeroRun groups with
  | none => text groups
  | some (start, length) => text (groups.take start) ++ "::" ++ text (groups.drop (start + length))

end CubeClient.Url
