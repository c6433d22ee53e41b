/-!
# White space

Texts taken from a server or a settings file are trimmed, and a text that holds nothing but white
space counts as absent. White space is the Unicode property of that name, not only the ASCII
blanks: a no-break space pads a number as well as a space does.
-/

namespace CubeClient.Text

/-- The Unicode property White_Space. -/
def isSpace (c : Char) : Bool :=
  let n := c.toNat
  (0x09 ≤ n && n ≤ 0x0D) || n == 0x20 || n == 0x85 || n == 0xA0 || n == 0x1680 ||
    (0x2000 ≤ n && n ≤ 0x200A) || n == 0x2028 || n == 0x2029 || n == 0x202F || n == 0x205F ||
    n == 0x3000

/-- White space removed from both ends of a list of characters. -/
def trimList (cs : List Char) : List Char :=
  ((cs.dropWhile isSpace).reverse.dropWhile isSpace).reverse

/-- White space removed from both ends of a text. -/
def trim (s : String) : String :=
  String.ofList (trimList s.toList)

/-- A text without any character that is not white space. -/
def isBlank (s : String) : Bool :=
  s.toList.all isSpace

end CubeClient.Text
