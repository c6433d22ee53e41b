/-!
# Cutting texts

A text is cut at every separator, or joined from pieces with a separator between them. Cutting
never answers no piece: a text without the separator is one piece, the empty text too.
-/

namespace CubeClient.Text

/-- A text cut at a separator. -/
def splitAt (separator : Char) : List Char → List (List Char)
  | [] => [[]]
  | c :: rest =>
    if c = separator then [] :: splitAt separator rest
    else
      match splitAt separator rest with
      | [] => [[c]]
      | piece :: pieces => (c :: piece) :: pieces

/-- Texts joined by a separator. -/
def joinWith (separator : Char) : List (List Char) → List Char
  | [] => []
  | [piece] => piece
  | piece :: pieces => piece ++ separator :: joinWith separator pieces

end CubeClient.Text
