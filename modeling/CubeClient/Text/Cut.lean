/-!
# Cutting texts

A text that is too long is cut, so that at most so many bytes are left of it. It cannot be cut
within a character, and the search for a place goes back from the limit, byte by byte. The front of
a text is such a place, so the search never has to go on before it (`isSome_cutFrom?`).
-/

namespace CubeClient.Text

/-- Goes back from a byte to a place between two characters or at an end of the text. There is none
if the search has to go on below zero. -/
def cutFrom? (text : String) : Nat → Option text.Pos
  | 0 => text.pos? 0
  | byte + 1 => (text.pos? ⟨byte + 1⟩).or (cutFrom? text byte)

theorem pos?_of_isValid {text : String} {place : String.Pos.Raw} (h : place.IsValid text) :
    text.pos? place = some ⟨place, h⟩ := by
  simp only [String.pos?, String.Slice.pos?, String.Pos.Raw.isValidForSlice_eq_true_iff,
    String.Pos.Raw.isValidForSlice_toSlice_iff, h]
  rfl

theorem isSome_cutFrom? (text : String) (byte : Nat) : (cutFrom? text byte).isSome := by
  induction byte with
  | zero => rw [cutFrom?, pos?_of_isValid String.Pos.Raw.isValid_zero, Option.isSome_some]
  | succ byte ih => rw [cutFrom?, Option.isSome_or, ih, Bool.or_true]

/-- What is left of a text of which at most so many bytes are kept. -/
def truncate (text : String) (limit : Nat) : String :=
  if text.utf8ByteSize ≤ limit then text
  else (text.sliceTo ((cutFrom? text limit).get (isSome_cutFrom? text limit))).copy

end CubeClient.Text
