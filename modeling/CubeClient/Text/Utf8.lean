/-!
# UTF-8

Texts travel as UTF-8 bytes. `encode` writes a text, `decode?` reads bytes that must be well formed,
and `decodeLossy` reads any bytes: an ill-formed sequence is replaced by U+FFFD, where one
replacement stands for the longest beginning of a character that the bytes allow, as the Unicode
standard recommends.

Both readers go through `next`, which takes one character or one ill-formed sequence off the front,
so that what one of them calls well formed the other does too.
-/

namespace CubeClient.Text

/-- A sequence of bytes. -/
abbrev Bytes := List UInt8

namespace Utf8

/-- The bytes of one character, one to four of them. -/
def encodeChar (c : Char) : Bytes :=
  let n := c.toNat
  if n < 0x80 then [n.toUInt8]
  else if n < 0x800 then [(0xC0 + n / 0x40).toUInt8, (0x80 + n % 0x40).toUInt8]
  else if n < 0x10000 then
    [(0xE0 + n / 0x1000).toUInt8, (0x80 + n / 0x40 % 0x40).toUInt8, (0x80 + n % 0x40).toUInt8]
  else
    [(0xF0 + n / 0x40000).toUInt8, (0x80 + n / 0x1000 % 0x40).toUInt8,
      (0x80 + n / 0x40 % 0x40).toUInt8, (0x80 + n % 0x40).toUInt8]

/-- A text as bytes. -/
def encodeList (cs : List Char) : Bytes :=
  cs.flatMap encodeChar

/-- A text as bytes. -/
def encode (s : String) : Bytes :=
  encodeList s.toList

/-- A byte that continues a character. -/
def isTail (b : UInt8) : Bool :=
  0x80 ≤ b && b ≤ 0xBF

/-- How many bytes follow a first byte, and the range the second one must lie in. -/
def following? (first : UInt8) : Option (Nat × UInt8 × UInt8) :=
  if 0xC2 ≤ first && first ≤ 0xDF then some (1, 0x80, 0xBF)
  else if first == 0xE0 then some (2, 0xA0, 0xBF)
  else if 0xE1 ≤ first && first ≤ 0xEC then some (2, 0x80, 0xBF)
  else if first == 0xED then some (2, 0x80, 0x9F)
  else if 0xEE ≤ first && first ≤ 0xEF then some (2, 0x80, 0xBF)
  else if first == 0xF0 then some (3, 0x90, 0xBF)
  else if 0xF1 ≤ first && first ≤ 0xF3 then some (3, 0x80, 0xBF)
  else if first == 0xF4 then some (3, 0x80, 0x8F)
  else none

/-- The payload of a continuation byte. -/
def tailBits (b : UInt8) : Nat :=
  b.toNat % 0x40

/-- Reads one character after its first byte. The number is how many of the given bytes were used,
whether or not they make a character. -/
def readTail (first : UInt8) (rest : Bytes) : Option Char × Nat :=
  match following? first with
  | none => (none, 0)
  | some (count, low, high) =>
    match rest with
    | [] => (none, 0)
    | b :: rest =>
      if !(low ≤ b && b ≤ high) then (none, 0)
      else if count == 1 then
        (some (Char.ofNat (first.toNat % 0x20 * 0x40 + tailBits b)), 1)
      else
        match rest with
        | [] => (none, 1)
        | c :: rest =>
          if !isTail c then (none, 1)
          else if count == 2 then
            (some (Char.ofNat (first.toNat % 0x10 * 0x1000 + tailBits b * 0x40 + tailBits c)), 2)
          else
            match rest with
            | [] => (none, 2)
            | d :: _ =>
              if !isTail d then (none, 2)
              else
                (some (Char.ofNat (first.toNat % 0x08 * 0x40000 + tailBits b * 0x1000 +
                  tailBits c * 0x40 + tailBits d)), 3)

/-- The character at the front of some bytes, or `none` for an ill-formed sequence there, with the
bytes after it. -/
def next (first : UInt8) (rest : Bytes) : Option Char × Bytes :=
  if first < 0x80 then (some (Char.ofNat first.toNat), rest)
  else
    let (c, used) := readTail first rest
    (c, rest.drop used)

theorem length_next_le (first : UInt8) (rest : Bytes) :
    (next first rest).2.length ≤ rest.length := by
  unfold next
  split
  · exact Nat.le_refl _
  · simp only [List.length_drop]
    exact Nat.sub_le _ _

/-- Reads all bytes, replacing each ill-formed sequence by U+FFFD. -/
def decodeLossyList : Bytes → List Char
  | [] => []
  | b :: rest => ((next b rest).1.getD '\uFFFD') :: decodeLossyList (next b rest).2
termination_by bytes => bytes.length
decreasing_by exact Nat.lt_succ_of_le (length_next_le b rest)

/-- Reads all bytes, replacing each ill-formed sequence by U+FFFD. -/
def decodeLossy (bytes : Bytes) : String :=
  String.ofList (decodeLossyList bytes)

/-- Reads bytes that are well formed throughout. -/
def decodeList? : Bytes → Option (List Char)
  | [] => some []
  | b :: rest =>
    match (next b rest).1 with
    | none => none
    | some c => (decodeList? (next b rest).2).map (c :: ·)
termination_by bytes => bytes.length
decreasing_by exact Nat.lt_succ_of_le (length_next_le b rest)

/-- Reads bytes that are well formed throughout. -/
def decode? (bytes : Bytes) : Option String :=
  (decodeList? bytes).map String.ofList

end Utf8

end CubeClient.Text
