import CubeClient.Text.Ascii
import CubeClient.Text.Utf8

/-!
# Percent encoding

A character that may not stand in a part of a URL is written as the bytes of its UTF-8 form, each as
a percent sign and two hexadecimal digits. Which characters that are depends on the part; a
character outside ASCII is always written so.
-/

namespace CubeClient.Url

open CubeClient.Text

/-- A control character. -/
def isControl (c : Char) : Bool :=
  c.toNat < 0x20 || c.toNat == 0x7F

/-- What is encoded in a fragment. -/
def inFragmentSet (c : Char) : Bool :=
  isControl c || [' ', '"', '<', '>', '\x60'].contains c

/-- What is encoded in a path. -/
def inPathSet (c : Char) : Bool :=
  inFragmentSet c || ['#', '?', '\x7b', '\x7d'].contains c

/-- What is encoded in a user name or password. -/
def inUserSet (c : Char) : Bool :=
  inPathSet c || ['/', ':', ';', '=', '@', '[', '\\', ']', '^', '|'].contains c

/-- What is encoded in a query. Where the path has segments of a known kind, quotes are too. -/
def inQuerySet (special : Bool) (c : Char) : Bool :=
  isControl c || [' ', '"', '#', '<', '>'].contains c || (special && c == '\'')

/-- A byte as a percent sign and two digits. -/
def encodeByte (b : UInt8) : List Char :=
  '%' :: (hexPadded 2 b.toNat).map Char.toUpper

/-- Encodes a character if it is in a set or outside ASCII. -/
def encodeChar (inSet : Char → Bool) (c : Char) : List Char :=
  if inSet c || 0x80 ≤ c.toNat then (Utf8.encodeChar c).flatMap encodeByte else [c]

/-- Encodes a text. -/
def percentEncode (inSet : Char → Bool) (cs : List Char) : List Char :=
  cs.flatMap (encodeChar inSet)

/-- Replaces encoded bytes by what they stand for. A percent sign that no two digits follow
stays. -/
def percentDecode : Bytes → Bytes
  | 0x25 :: a :: b :: rest =>
    match digitValueIn? 16 (Char.ofNat a.toNat), digitValueIn? 16 (Char.ofNat b.toNat) with
    | some high, some low => UInt8.ofNat (16 * high + low) :: percentDecode rest
    | _, _ => 0x25 :: percentDecode (a :: b :: rest)
  | b :: rest => b :: percentDecode rest
  | [] => []

end CubeClient.Url
