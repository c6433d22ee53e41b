import CubeClient.Text.Utf8

/-!
# UTF-8 is read back

Both readers of bytes give back the text that `encode` wrote. The reason is `next_encodeChar`: the
bytes of one character are taken for exactly this character, whatever follows them. It is shown for
each number of bytes by itself, with a character as the numbers that its bytes carry.

Bytes of a text are its ASCII characters or lie beyond ASCII (`forall_mem_encodeList`), so a reader
that looks for ASCII bytes finds them where the text has them.
-/

namespace CubeClient.Text.Utf8

theorem toNat_toUInt8 {n : Nat} (h : n < 0x100) : n.toUInt8.toNat = n := by
  simp [Nat.mod_eq_of_lt h]

theorem toUInt8_lt_iff {n : Nat} (h : n < 0x100) (b : UInt8) : n.toUInt8 < b ↔ n < b.toNat := by
  rw [UInt8.lt_iff_toNat_lt, toNat_toUInt8 h]

theorem le_toUInt8_iff {n : Nat} (h : n < 0x100) (b : UInt8) : b ≤ n.toUInt8 ↔ b.toNat ≤ n := by
  rw [UInt8.le_iff_toNat_le, toNat_toUInt8 h]

theorem toUInt8_le_iff {n : Nat} (h : n < 0x100) (b : UInt8) : n.toUInt8 ≤ b ↔ n ≤ b.toNat := by
  rw [UInt8.le_iff_toNat_le, toNat_toUInt8 h]

/-! ## First bytes and continuation bytes -/

theorem following?_two : ∀ k < 0x20, 2 ≤ k →
    following? (0xC0 + k).toUInt8 = some (1, 0x80, 0xBF) := by
  decide

theorem following?_three : ∀ k < 0x10, following? (0xE0 + k).toUInt8 =
    some (2, if k = 0 then 0xA0 else 0x80, if k = 0xD then 0x9F else 0xBF) := by
  decide

theorem following?_four : ∀ k < 5, following? (0xF0 + k).toUInt8 =
    some (3, if k = 0 then 0x90 else 0x80, if k = 4 then 0x8F else 0xBF) := by
  decide

theorem isTail_tail : ∀ l < 0x40, isTail (0x80 + l).toUInt8 = true := by
  decide

theorem tailBits_tail : ∀ l < 0x40, tailBits (0x80 + l).toUInt8 = l := by
  decide

/-! ## Reading one character -/

theorem next_one {k : Nat} (hk : k < 0x80) (rest : Bytes) :
    next k.toUInt8 rest = (some (Char.ofNat k), rest) := by
  have hascii : k.toUInt8 < 0x80 := (toUInt8_lt_iff (by omega) 0x80).mpr hk
  rw [next, if_pos hascii, toNat_toUInt8 (by omega)]

theorem next_of_readTail {n used : Nat} {c : Option Char} (h₁ : 0x80 ≤ n) (h₂ : n < 0x100)
    {rest : Bytes} (h : readTail n.toUInt8 rest = (c, used)) :
    next n.toUInt8 rest = (c, rest.drop used) := by
  have hmore : ¬ n.toUInt8 < 0x80 := by
    rw [toUInt8_lt_iff h₂]
    exact Nat.not_lt.mpr h₁
  rw [next, if_neg hmore, h]

/-- Two bytes of the right kinds are one character. -/
theorem next_two {k l : Nat} (hk : 2 ≤ k) (hk' : k < 0x20) (hl : l < 0x40) (rest : Bytes) :
    next (0xC0 + k).toUInt8 ((0x80 + l).toUInt8 :: rest) =
      (some (Char.ofNat (k * 0x40 + l)), rest) := by
  have hfirst : (0xC0 + k) % 0x20 = k := by omega
  have hlow : (0x80 : UInt8) ≤ (0x80 + l).toUInt8 :=
    (le_toUInt8_iff (by omega) 0x80).mpr (Nat.le_add_right 0x80 l)
  have hhigh : (0x80 + l).toUInt8 ≤ (0xBF : UInt8) :=
    (toUInt8_le_iff (by omega) 0xBF).mpr (show 0x80 + l ≤ 0xBF by omega)
  have htail : readTail (0xC0 + k).toUInt8 ((0x80 + l).toUInt8 :: rest) =
      (some (Char.ofNat (k * 0x40 + l)), 1) := by
    simp only [readTail, following?_two k hk' hk, hlow, hhigh, tailBits_tail l hl,
      toNat_toUInt8 (show 0xC0 + k < 0x100 by omega), hfirst]
    rfl
  exact next_of_readTail (by omega) (by omega) htail

/-- Three bytes are a character, unless the form is too long or a surrogate. -/
theorem next_three {k l m : Nat} (hk : k < 0x10) (hl : l < 0x40) (hm : m < 0x40)
    (hshort : k = 0 → 0x20 ≤ l) (hsurrogate : k = 0xD → l < 0x20) (rest : Bytes) :
    next (0xE0 + k).toUInt8 ((0x80 + l).toUInt8 :: (0x80 + m).toUInt8 :: rest) =
      (some (Char.ofNat (k * 0x1000 + l * 0x40 + m)), rest) := by
  have hfirst : (0xE0 + k) % 0x10 = k := by omega
  have hlow : (if k = 0 then 0xA0 else 0x80 : UInt8) ≤ (0x80 + l).toUInt8 := by
    rw [le_toUInt8_iff (by omega)]
    split
    · exact show 0xA0 ≤ 0x80 + l by omega
    · exact Nat.le_add_right 0x80 l
  have hhigh : (0x80 + l).toUInt8 ≤ (if k = 0xD then 0x9F else 0xBF : UInt8) := by
    rw [toUInt8_le_iff (by omega)]
    split
    · exact show 0x80 + l ≤ 0x9F by omega
    · exact show 0x80 + l ≤ 0xBF by omega
  have htail : readTail (0xE0 + k).toUInt8 ((0x80 + l).toUInt8 :: (0x80 + m).toUInt8 :: rest) =
      (some (Char.ofNat (k * 0x1000 + l * 0x40 + m)), 2) := by
    simp only [readTail, following?_three k hk, hlow, hhigh, isTail_tail m hm, tailBits_tail l hl,
      tailBits_tail m hm, toNat_toUInt8 (show 0xE0 + k < 0x100 by omega), hfirst]
    rfl
  exact next_of_readTail (by omega) (by omega) htail

/-- Four bytes are a character, unless the form is too long or past the last character. -/
theorem next_four {k l m p : Nat} (hk : k < 5) (hl : l < 0x40) (hm : m < 0x40) (hp : p < 0x40)
    (hshort : k = 0 → 0x10 ≤ l) (hlast : k = 4 → l < 0x10) (rest : Bytes) :
    next (0xF0 + k).toUInt8
        ((0x80 + l).toUInt8 :: (0x80 + m).toUInt8 :: (0x80 + p).toUInt8 :: rest) =
      (some (Char.ofNat (k * 0x40000 + l * 0x1000 + m * 0x40 + p)), rest) := by
  have hfirst : (0xF0 + k) % 0x08 = k := by omega
  have hlow : (if k = 0 then 0x90 else 0x80 : UInt8) ≤ (0x80 + l).toUInt8 := by
    rw [le_toUInt8_iff (by omega)]
    split
    · exact show 0x90 ≤ 0x80 + l by omega
    · exact Nat.le_add_right 0x80 l
  have hhigh : (0x80 + l).toUInt8 ≤ (if k = 4 then 0x8F else 0xBF : UInt8) := by
    rw [toUInt8_le_iff (by omega)]
    split
    · exact show 0x80 + l ≤ 0x8F by omega
    · exact show 0x80 + l ≤ 0xBF by omega
  have htail : readTail (0xF0 + k).toUInt8
      ((0x80 + l).toUInt8 :: (0x80 + m).toUInt8 :: (0x80 + p).toUInt8 :: rest) =
        (some (Char.ofNat (k * 0x40000 + l * 0x1000 + m * 0x40 + p)), 3) := by
    simp only [readTail, following?_four k hk, hlow, hhigh, isTail_tail m hm, isTail_tail p hp,
      tailBits_tail l hl, tailBits_tail m hm, tailBits_tail p hp,
      toNat_toUInt8 (show 0xF0 + k < 0x100 by omega), hfirst]
    rfl
  exact next_of_readTail (by omega) (by omega) htail

/-- A character is read back from its bytes, and what is behind them is left. -/
theorem next_encodeChar (c : Char) (rest : Bytes) :
    ∃ b tail, encodeChar c = b :: tail ∧ next b (tail ++ rest) = (some c, rest) := by
  have hvalid : c.toNat < 0xD800 ∨ (0xDFFF < c.toNat ∧ c.toNat < 0x110000) := c.valid
  have hc : Char.ofNat c.toNat = c := Char.ofNat_toNat c
  unfold encodeChar
  generalize c.toNat = n at hvalid hc ⊢
  subst hc
  dsimp only
  -- one case for each number of bytes; what is left is that the parts of the number make it up
  split
  · exact ⟨_, _, rfl, next_one (by assumption) rest⟩
  split
  · refine ⟨_, _, rfl, (next_two (by omega) (by omega) (by omega) rest).trans ?_⟩
    rw [show n / 0x40 * 0x40 + n % 0x40 = n by omega]
  split
  · refine ⟨_, _, rfl,
      (next_three (by omega) (by omega) (by omega) (by omega) (by omega) rest).trans ?_⟩
    rw [show n / 0x1000 * 0x1000 + n / 0x40 % 0x40 * 0x40 + n % 0x40 = n by omega]
  · refine ⟨_, _, rfl, (next_four (by omega) (by omega) (by omega) (by omega) (by omega) (by omega)
      rest).trans ?_⟩
    rw [show n / 0x40000 * 0x40000 + n / 0x1000 % 0x40 * 0x1000 + n / 0x40 % 0x40 * 0x40 +
      n % 0x40 = n by omega]

/-! ## Reading what is written -/

theorem encodeList_append (cs ds : List Char) :
    encodeList (cs ++ ds) = encodeList cs ++ encodeList ds :=
  List.flatMap_append

theorem encode_append (s t : String) : encode (s ++ t) = encode s ++ encode t := by
  rw [encode, String.toList_append, encodeList_append]
  rfl

/-- Characters come back from their bytes. -/
theorem decodeList?_encodeList (cs : List Char) : decodeList? (encodeList cs) = some cs := by
  induction cs with
  | nil => rw [encodeList, List.flatMap_nil, decodeList?]
  | cons c cs ih =>
    obtain ⟨b, tail, hb, hnext⟩ := next_encodeChar c (encodeList cs)
    rw [encodeList, List.flatMap_cons, hb, List.cons_append, decodeList?]
    rw [← encodeList, hnext]
    dsimp only
    rw [ih]
    rfl

/-- Lossy decoding loses nothing of what was encoded. -/
theorem decodeLossyList_encodeList (cs : List Char) : decodeLossyList (encodeList cs) = cs := by
  induction cs with
  | nil => rw [encodeList, List.flatMap_nil, decodeLossyList]
  | cons c cs ih =>
    obtain ⟨b, tail, hb, hnext⟩ := next_encodeChar c (encodeList cs)
    rw [encodeList, List.flatMap_cons, hb, List.cons_append, decodeLossyList]
    rw [← encodeList, hnext]
    dsimp only
    rw [ih]
    rfl

/-- A text is read back from its bytes. -/
theorem decode?_encode (s : String) : decode? (encode s) = some s := by
  rw [decode?, encode, decodeList?_encodeList, Option.map_some, String.ofList_toList]

/-- A text is read back from its bytes, with nothing replaced. -/
theorem decodeLossy_encode (s : String) : decodeLossy (encode s) = s := by
  rw [decodeLossy, encode, decodeLossyList_encodeList, String.ofList_toList]

/-! ## ASCII bytes -/

/-- A byte of a character is that character, or lies beyond ASCII. -/
theorem ascii_or_high {b : UInt8} {c : Char} (h : b ∈ encodeChar c) :
    (c.toNat < 0x80 ∧ b = c.toNat.toUInt8) ∨ 0x80 ≤ b := by
  unfold encodeChar at h
  dsimp only at h
  have high (n : Nat) (h₁ : 0x80 ≤ n) (h₂ : n < 0x100) : 0x80 ≤ n.toUInt8 :=
    (le_toUInt8_iff h₂ 0x80).mpr h₁
  have hc : c.toNat < 0x110000 := by
    have : c.toNat < 0xD800 ∨ (0xDFFF < c.toNat ∧ c.toNat < 0x110000) := c.valid
    omega
  split at h
  · rename_i hascii
    exact .inl ⟨hascii, List.mem_singleton.mp h⟩
  split at h
  · simp only [List.mem_cons, List.not_mem_nil, or_false] at h
    rcases h with rfl | rfl <;> exact .inr (high _ (by omega) (by omega))
  split at h
  · simp only [List.mem_cons, List.not_mem_nil, or_false] at h
    rcases h with rfl | rfl | rfl <;> exact .inr (high _ (by omega) (by omega))
  · simp only [List.mem_cons, List.not_mem_nil, or_false] at h
    rcases h with rfl | rfl | rfl | rfl <;> exact .inr (high _ (by omega) (by omega))

/-- What holds of all bytes beyond ASCII and of the ASCII characters of a text holds of all its
bytes. -/
theorem forall_mem_encodeList {p : UInt8 → Prop} {cs : List Char} (high : ∀ b, 0x80 ≤ b → p b)
    (low : ∀ c ∈ cs, c.toNat < 0x80 → p c.toNat.toUInt8) : ∀ b ∈ encodeList cs, p b := by
  intro b hb
  obtain ⟨c, hc, hbc⟩ := List.mem_flatMap.mp hb
  rcases ascii_or_high hbc with ⟨hascii, rfl⟩ | hhigh
  · exact low c hc hascii
  · exact high b hhigh

end CubeClient.Text.Utf8
