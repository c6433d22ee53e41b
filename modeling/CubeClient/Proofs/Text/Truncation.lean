import CubeClient.Text.Cut

/-!
# What is left of a cut text

`truncate` keeps the longest piece from the front of a text that has at most so many bytes and ends
where a character does (`isLongestFront_truncate`). Its search starts at the limit, and what it
finds is the last place up to there (`le_of_cutFrom?`). A character has at most four bytes, so of
any four bytes in a row one is such a place (`exists_isValid_near`), and the search ends after at
most three steps back (`exists_cutFrom?`).
-/

namespace CubeClient.Text

/-! ## Places between characters -/

theorem pos?_of_not_isValid {text : String} {place : String.Pos.Raw} (h : ¬ place.IsValid text) :
    text.pos? place = none := by
  simp [String.pos?, String.Slice.pos?, h]

/-- Of any four bytes in a row one is a place between two characters or at an end of the text. -/
theorem exists_isValid_near (text : String) {byte : Nat} (h : byte ≤ text.utf8ByteSize) :
    ∃ near ≤ byte, byte ≤ near + 3 ∧ (String.Pos.Raw.mk near).IsValid text := by
  induction text using String.push_induction with
  | empty =>
    rw [String.utf8ByteSize_empty] at h
    exact ⟨0, Nat.zero_le byte, by omega, String.Pos.Raw.isValid_zero⟩
  | push text c ih =>
    rw [String.utf8ByteSize_push] at h
    have hkeeps {place : String.Pos.Raw} (hplace : place.IsValid text) :
        place.IsValid (text.push c) := String.Pos.Raw.isValid_push.mpr (.inl hplace)
    -- the byte lies in the text before the last character, at the end, or within this character
    rcases Nat.lt_or_ge text.utf8ByteSize byte with hlast | hbefore
    · rcases Nat.lt_or_eq_of_le h with hwithin | rfl
      · have hsize : c.utf8Size ≤ 4 := c.utf8Size_le_four
        exact ⟨text.utf8ByteSize, by omega, by omega, hkeeps String.Pos.Raw.isValid_rawEndPos⟩
      · exact ⟨_, Nat.le_refl _, Nat.le_add_right _ 3, String.Pos.Raw.isValid_push.mpr (.inr rfl)⟩
    · obtain ⟨near, hle, hnear, hvalid⟩ := ih hbefore
      exact ⟨near, hle, hnear, hkeeps hvalid⟩

/-! ## The search -/

theorem cutFrom?_of_isValid {text : String} {byte : Nat}
    (h : (String.Pos.Raw.mk byte).IsValid text) : cutFrom? text byte = some ⟨⟨byte⟩, h⟩ := by
  cases byte with
  | zero => exact pos?_of_isValid h
  | succ byte => rw [cutFrom?, pos?_of_isValid h, Option.some_or]

/-- Within a character the search goes back by one byte. -/
theorem cutFrom?_succ_of_not_isValid {text : String} {byte : Nat}
    (h : ¬ (String.Pos.Raw.mk (byte + 1)).IsValid text) :
    cutFrom? text (byte + 1) = cutFrom? text byte := by
  rw [cutFrom?, pos?_of_not_isValid h, Option.none_or]

/-- What is found is the last place up to the byte that the search starts at. -/
theorem le_of_cutFrom? {text : String} {byte : Nat} {cut : text.Pos}
    (h : cutFrom? text byte = some cut) :
    cut.offset.byteIdx ≤ byte ∧
      ∀ place : String.Pos.Raw, place.IsValid text → place.byteIdx ≤ byte →
        place.byteIdx ≤ cut.offset.byteIdx := by
  induction byte with
  | zero =>
    rw [cutFrom?_of_isValid String.Pos.Raw.isValid_zero] at h
    cases h
    exact ⟨Nat.le_refl 0, fun _ _ hle => hle⟩
  | succ byte ih =>
    by_cases hvalid : (String.Pos.Raw.mk (byte + 1)).IsValid text
    · rw [cutFrom?_of_isValid hvalid] at h
      cases h
      exact ⟨Nat.le_refl (byte + 1), fun _ _ hle => hle⟩
    · -- the search passes over a byte at which there is no place
      rw [cutFrom?_succ_of_not_isValid hvalid] at h
      obtain ⟨hle, hlast⟩ := ih h
      refine ⟨Nat.le_succ_of_le hle, fun place hplace hbyte => hlast place hplace ?_⟩
      have hne : place.byteIdx ≠ byte + 1 := by
        intro heq
        exact hvalid (heq ▸ hplace)
      omega

/-- The search finds a place, and within a text it takes at most three steps back. -/
theorem exists_cutFrom? (text : String) {byte : Nat} (h : byte ≤ text.utf8ByteSize) :
    ∃ cut, cutFrom? text byte = some cut ∧ byte ≤ cut.offset.byteIdx + 3 := by
  obtain ⟨cut, hcut⟩ := Option.isSome_iff_exists.mp (isSome_cutFrom? text byte)
  obtain ⟨near, hle, hnear, hvalid⟩ := exists_isValid_near text h
  have hlast : near ≤ cut.offset.byteIdx := (le_of_cutFrom? hcut).2 ⟨near⟩ hvalid hle
  exact ⟨cut, hcut, by omega⟩

/-! ## What is left -/

/-- `kept` is the longest piece from the front of a text that has at most so many bytes and ends
where a character does. -/
structure IsLongestFront (text : String) (limit : Nat) (kept : String) : Prop where
  front : ∃ rest, text = kept ++ rest
  /-- It does not end within a character of the text. -/
  ends : kept.rawEndPos.IsValid text
  size_le : kept.utf8ByteSize ≤ limit
  /-- At no later byte up to the limit can a piece end. -/
  longest : ∀ place : String.Pos.Raw, place.IsValid text → place.byteIdx ≤ limit →
    place.byteIdx ≤ kept.utf8ByteSize

/-- A text that is short enough is kept. -/
theorem truncate_of_le {text : String} {limit : Nat} (h : text.utf8ByteSize ≤ limit) :
    truncate text limit = text := if_pos h

/-- Of a longer text there is left what stands before the place that the search finds. -/
theorem splits_truncate {text : String} {limit : Nat} (h : limit < text.utf8ByteSize)
    {cut : text.Pos} (hcut : cutFrom? text limit = some cut) :
    cut.Splits (truncate text limit) (text.sliceFrom cut).copy := by
  have hget : (cutFrom? text limit).get (isSome_cutFrom? text limit) = cut := by
    simp only [hcut, Option.get_some]
  rw [truncate, if_neg (Nat.not_le.mpr h), hget]
  exact cut.splits

theorem isLongestFront_truncate (text : String) (limit : Nat) :
    IsLongestFront text limit (truncate text limit) := by
  rcases Nat.lt_or_ge limit text.utf8ByteSize with hlong | hshort
  · obtain ⟨cut, hcut, -⟩ := exists_cutFrom? text (Nat.le_of_lt hlong)
    obtain ⟨hle, hlast⟩ := le_of_cutFrom? hcut
    obtain ⟨happend, hoffset⟩ := splits_truncate hlong hcut
    have hsize : cut.offset.byteIdx = (truncate text limit).utf8ByteSize := by
      rw [hoffset, String.byteIdx_rawEndPos]
    exact ⟨⟨_, happend⟩, hoffset ▸ cut.isValid, hsize ▸ hle, hsize ▸ hlast⟩
  · rw [truncate_of_le hshort]
    refine ⟨⟨"", String.append_empty.symm⟩, String.Pos.Raw.isValid_rawEndPos, hshort, ?_⟩
    exact fun place hplace _ => hplace.le_utf8ByteSize

-- the characters have one, two and three bytes, and the fifth byte is in the last one
example : truncate "aé€" 5 = "aé" := by decide

end CubeClient.Text
