import CubeClient.Text.Ascii
import CubeClient.Text.Split
import Mathlib.Data.List.Basic

/-!
# Cutting and joining

Cutting a text at a separator and joining pieces with it are inverse to each other, as long as there
is a piece and none holds the separator. What a text is made of can so be read off its pieces, and
two texts are compared piece by piece.

Where characters of a kind are in front, and the next is of another kind, the longest run of that
kind is cut off behind them.
-/

namespace CubeClient.Text

variable {separator : Char} {cs : List Char}

theorem splitAt_ne_nil (separator : Char) (cs : List Char) : splitAt separator cs ≠ [] := by
  cases cs with
  | nil => exact List.cons_ne_nil _ _
  | cons c rest =>
    unfold splitAt
    split
    · exact List.cons_ne_nil _ _
    · split <;> exact List.cons_ne_nil _ _

theorem splitAt_cons (separator c : Char) (cs : List Char) :
    splitAt separator (c :: cs) =
      if c = separator then [] :: splitAt separator cs
      else (splitAt separator cs).modifyHead (c :: ·) := by
  obtain ⟨piece, pieces, hsplit⟩ := List.exists_cons_of_ne_nil (splitAt_ne_nil separator cs)
  rw [splitAt, hsplit]
  rfl

/-- Splitting is that of the library. -/
theorem splitAt_eq_splitOn (separator : Char) (cs : List Char) :
    splitAt separator cs = cs.splitOn separator := by
  induction cs with
  | nil => rfl
  | cons c cs ih =>
    rw [splitAt_cons, ih, List.splitOn_cons_eq_if_modifyHead]
    simp only [beq_iff_eq]

theorem joinWith_eq_intercalate (separator : Char) (pieces : List (List Char)) :
    joinWith separator pieces = [separator].intercalate pieces := by
  induction pieces with
  | nil => rfl
  | cons piece pieces ih =>
    cases pieces with
    | nil => simp [joinWith]
    | cons second pieces =>
      rw [joinWith, ih]
      · simp [List.intercalate]
      · exact List.cons_ne_nil _ _

/-- A text comes back when its pieces are joined. -/
theorem joinWith_splitAt (separator : Char) (cs : List Char) :
    joinWith separator (splitAt separator cs) = cs := by
  rw [joinWith_eq_intercalate, splitAt_eq_splitOn, List.intercalate_splitOn]

/-- Pieces come back when what they join to is split, as long as none holds the separator. -/
theorem splitAt_joinWith {pieces : List (List Char)} (hne : pieces ≠ [])
    (h : ∀ piece ∈ pieces, separator ∉ piece) :
    splitAt separator (joinWith separator pieces) = pieces := by
  rw [joinWith_eq_intercalate, splitAt_eq_splitOn, List.splitOn_intercalate _ h hne]

/-- Joined texts differ if their pieces do. -/
theorem joinWith_injective {pieces pieces' : List (List Char)}
    (hne : pieces ≠ []) (hne' : pieces' ≠ [])
    (h : ∀ piece ∈ pieces, separator ∉ piece) (h' : ∀ piece ∈ pieces', separator ∉ piece)
    (heq : joinWith separator pieces = joinWith separator pieces') : pieces = pieces' := by
  rw [← splitAt_joinWith hne h, heq, splitAt_joinWith hne' h']

theorem toList_intercalate (separator : Char) (texts : List String) :
    ((String.singleton separator).intercalate texts).toList =
      joinWith separator (texts.map String.toList) := by
  rw [String.toList_intercalate, joinWith_eq_intercalate]
  simp

/-- A first piece and what is behind it. -/
theorem exists_intercalate_cons (separator : Char) (piece : List Char)
    (pieces : List (List Char)) :
    ∃ rest, [separator].intercalate (piece :: pieces) = piece ++ rest ∧
      (∀ c ∈ rest.head?, c = separator) ∧ rest.drop 1 = [separator].intercalate pieces := by
  cases pieces with
  | nil => exact ⟨[], by simp, nofun, by simp⟩
  | cons second pieces =>
    refine ⟨separator :: [separator].intercalate (second :: pieces), ?_, ?_, rfl⟩
    · rw [List.intercalate_cons_cons, List.append_assoc, List.singleton_append]
    · simp

/-- There is one more piece than separators. -/
theorem length_splitAt (separator : Char) (cs : List Char) :
    (splitAt separator cs).length = cs.count separator + 1 := by
  induction cs with
  | nil => rfl
  | cons c cs ih =>
    rw [splitAt_cons]
    by_cases hc : c = separator
    · rw [if_pos hc, List.length_cons, ih, hc, List.count_cons_self]
    · rw [if_neg hc, List.length_modifyHead, ih, List.count_cons_of_ne hc]

/-- What is behind the first separator holds all pieces but the first. -/
theorem splitAt_behind (h : separator ∈ cs) :
    splitAt separator ((cs.dropWhile (· != separator)).drop 1) = (splitAt separator cs).tail := by
  induction cs with
  | nil => cases h
  | cons c cs ih =>
    rw [splitAt_cons]
    by_cases hc : c = separator
    · simp [hc]
    · have hmem : separator ∈ cs := (List.mem_cons.mp h).resolve_left (Ne.symm hc)
      rw [List.dropWhile_cons_of_pos (by simpa using hc), ih hmem, if_neg hc]
      cases splitAt separator cs <;> rfl

/-- Splitting goes through a mapping that leaves the separator alone. -/
theorem splitAt_map {f : Char → Char} (hf : ∀ c, f c = separator ↔ c = separator)
    (cs : List Char) :
    splitAt separator (cs.map f) = (splitAt separator cs).map (List.map f) := by
  induction cs with
  | nil => rfl
  | cons c cs ih =>
    rw [List.map_cons, splitAt_cons, splitAt_cons, ih]
    by_cases hc : c = separator
    · rw [if_pos ((hf c).mpr hc), if_pos hc, List.map_cons, List.map_nil]
    · rw [if_neg fun h => hc ((hf c).mp h), if_neg hc]
      cases splitAt separator cs <;> rfl

theorem mem_joinWith {pieces : List (List Char)} {c : Char} (h : c ∈ joinWith separator pieces) :
    c = separator ∨ ∃ piece ∈ pieces, c ∈ piece := by
  induction pieces with
  | nil => cases h
  | cons piece pieces ih =>
    cases pieces with
    | nil => exact .inr ⟨piece, List.mem_cons_self, h⟩
    | cons second pieces =>
      rw [joinWith] at h
      · rcases List.mem_append.mp h with h | h
        · exact .inr ⟨piece, List.mem_cons_self, h⟩
        · rcases List.mem_cons.mp h with h | h
          · exact .inl h
          · rcases ih h with h | ⟨piece', hmem, h⟩
            · exact .inl h
            · exact .inr ⟨piece', List.mem_cons_of_mem _ hmem, h⟩
      · exact List.cons_ne_nil _ _

/-- No piece holds the separator. -/
theorem not_mem_of_mem_splitAt {piece : List Char} (h : piece ∈ splitAt separator cs) :
    separator ∉ piece := by
  induction cs generalizing piece with
  | nil =>
    rw [List.mem_singleton.mp h]
    exact List.not_mem_nil
  | cons c cs ih =>
    rw [splitAt_cons] at h
    split at h
    · rcases List.mem_cons.mp h with rfl | h
      · exact List.not_mem_nil
      · exact ih h
    · rename_i hc
      obtain ⟨first, rest, hsplit⟩ := List.exists_cons_of_ne_nil (splitAt_ne_nil separator cs)
      rw [hsplit] at ih h
      rcases List.mem_cons.mp h with rfl | h
      · exact List.not_mem_cons_of_ne_of_not_mem (Ne.symm hc) (ih List.mem_cons_self)
      · exact ih (List.mem_cons_of_mem _ h)

theorem mem_of_mem_splitAt {piece : List Char} {c : Char} (h : piece ∈ splitAt separator cs)
    (hc : c ∈ piece) : c ∈ cs := by
  induction cs generalizing piece with
  | nil =>
    rw [List.mem_singleton.mp h] at hc
    cases hc
  | cons d cs ih =>
    rw [splitAt_cons] at h
    split at h
    · rcases List.mem_cons.mp h with rfl | h
      · cases hc
      · exact List.mem_cons_of_mem _ (ih h hc)
    · obtain ⟨first, rest, hsplit⟩ := List.exists_cons_of_ne_nil (splitAt_ne_nil separator cs)
      rw [hsplit] at ih h
      rcases List.mem_cons.mp h with rfl | h
      · rcases List.mem_cons.mp hc with rfl | hc
        · exact List.mem_cons_self
        · exact List.mem_cons_of_mem _ (ih List.mem_cons_self hc)
      · exact List.mem_cons_of_mem _ (ih (List.mem_cons_of_mem _ h) hc)

/-! ## Runs -/

section

variable {p : Char → Bool} {front after : List Char}

theorem takeWhile_run (hfront : ∀ c ∈ front, p c = true)
    (hafter : ∀ c ∈ after.head?, p c = false) : (front ++ after).takeWhile p = front := by
  rw [List.takeWhile_append_of_pos hfront]
  cases after with
  | nil => exact List.append_nil front
  | cons c after => rw [List.takeWhile_cons_of_neg (by simp [hafter c rfl]), List.append_nil]

theorem dropWhile_run (hfront : ∀ c ∈ front, p c = true)
    (hafter : ∀ c ∈ after.head?, p c = false) : (front ++ after).dropWhile p = after := by
  rw [List.dropWhile_append_of_pos hfront]
  cases after with
  | nil => rfl
  | cons c after => rw [List.dropWhile_cons_of_neg (by simp [hafter c rfl])]

theorem forall_bne (h : separator ∉ front) : ∀ c ∈ front, (c != separator) = true := by
  intro c hc
  simpa using ne_of_mem_of_not_mem hc h

theorem takeWhile_bne_run (hfront : separator ∉ front)
    (hafter : ∀ c ∈ after.head?, c = separator) :
    (front ++ after).takeWhile (· != separator) = front := by
  apply takeWhile_run (forall_bne hfront)
  intro c hc
  simpa using hafter c hc

theorem dropWhile_bne_run (hfront : separator ∉ front)
    (hafter : ∀ c ∈ after.head?, c = separator) :
    (front ++ after).dropWhile (· != separator) = after := by
  apply dropWhile_run (forall_bne hfront)
  intro c hc
  simpa using hafter c hc

theorem head?_append_cases {c : Char} (h : c ∈ (front ++ after).head?) :
    c ∈ front.head? ∨ c ∈ after.head? := by
  cases front with
  | nil => exact .inr h
  | cons d front => exact .inl h

/-- What is left when a front is dropped does not begin with more of it. -/
theorem head?_dropWhile (p : Char → Bool) (cs : List Char) :
    ∀ c ∈ (cs.dropWhile p).head?, p c = false := by
  intro c hc
  have hhead := List.head?_dropWhile_not p cs
  rw [Option.mem_def.mp hc] at hhead
  exact hhead

end

end CubeClient.Text
