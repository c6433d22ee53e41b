import CubeClient.Text.Composition
import CubeClient.Text.Joining
import CubeClient.Url.NameMapping
import CubeClient.Url.Punycode

/-!
# Host names

A host name is compared in one form: every character as what it stands for, composed, and labels
outside ASCII in Punycode behind `xn--`. Characters that have a meaning elsewhere in a URL, blanks
and control characters are refused.

A label that comes in Punycode must be what a label outside ASCII would become. No label begins with
a mark or holds a joiner without effect, and in a name that holds letters from right to left every
label must keep to one direction.
-/

namespace CubeClient.Url

open CubeClient.Text

/-- What no host name holds. -/
def isForbiddenInName (c : Char) : Bool :=
  c.toNat ≤ 0x20 || c.toNat == 0x7F ||
    ['%', '#', '/', ':', '<', '>', '?', '@', '[', '\\', ']', '^', '|'].contains c

/-- The longest label outside ASCII. -/
def longestLabel : Nat := 1000

/-- The longest label in Punycode, without what it stands behind. -/
def longestCode : Nat := 2000

/-- Whether a label is in ASCII. -/
def isAscii (label : List Char) : Bool :=
  label.all (·.toNat < 0x80)

/-- Whether a text in Punycode could be in a host name as it is. -/
def isFolded : List Char → Bool
  | 'x' :: 'n' :: '-' :: '-' :: _ => false
  | label =>
    label.all (fun c => foldNameChar? c == some [c] && !isForbiddenInName c && c != '.') &&
      compose label == label

/-- The label that is written in Punycode. -/
def decodeLabel? (code : List Char) : Option (List Char) :=
  if code.isEmpty || code.getLast? == some '-' || longestCode < code.length then none
  else (Punycode.decode? code).filter isFolded

/-- The characters of a label. -/
def labelChars? : List Char → Option (List Char)
  | 'x' :: 'n' :: '-' :: '-' :: code => decodeLabel? code
  | label => if !isAscii label && longestLabel < label.length then none else some label

/-- Whether a label begins with a character of its own, and its joiners have an effect. -/
def isWellFormed (label : List Char) : Bool :=
  !label.head?.any isMark && joinersMatter [] label

/-- Whether labels cannot be mistaken for others by the direction in which they are written. -/
def areOrderly (labels : List (List Char)) : Bool :=
  !labels.any (·.any fun c => (direction c).isRightward) || labels.all isOrderly

/-- A label in ASCII. -/
def asciiLabel (label : List Char) : List Char :=
  if isAscii label then label else "xn--".toList ++ Punycode.encode label

/-- The characters that a name stands for, composed. -/
def foldChars? (name : List Char) : Option (List Char) :=
  ((name.mapM foldNameChar?).map fun texts => compose texts.flatten).filter
    fun folded => !folded.any isForbiddenInName

/-- The form in which a host name is compared; `none` if it is no host name. -/
def foldName? (name : List Char) : Option (List Char) := do
  let folded ← foldChars? name
  let labels ← (splitAt '.' folded).mapM labelChars?
  if labels.all isWellFormed && areOrderly labels then
    some (joinWith '.' (labels.map asciiLabel))
  else none

end CubeClient.Url
