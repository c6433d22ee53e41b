import CubeClient.Proofs.Text.Splitting
import CubeClient.Text.Blank
import Mathlib.Data.List.TakeWhile

/-!
# Trimming

Trimming takes away the white space around a text that has none at its own ends, and no character of
any other kind.
-/

namespace CubeClient.Text

theorem ne_of_isSpace {c d : Char} (hc : isSpace c = true) (hd : isSpace d = false) : c ≠ d := by
  rintro rfl
  rw [hc] at hd
  cases hd

theorem notMem_of_isSpace {cs : List Char} {c : Char} (h : ∀ c ∈ cs, isSpace c = true)
    (hc : isSpace c = false) : c ∉ cs :=
  fun hmem => ne_of_isSpace (h c hmem) hc rfl

theorem mem_dropWhile_isSpace {cs : List Char} {c : Char} (h : isSpace c = false) :
    c ∈ cs.dropWhile isSpace ↔ c ∈ cs := by
  constructor
  · exact fun hmem => (List.dropWhile_suffix isSpace).subset hmem
  · intro hmem
    rw [← List.takeWhile_append_dropWhile (p := isSpace) (l := cs)] at hmem
    rcases List.mem_append.mp hmem with hfront | hback
    · rw [List.mem_takeWhile_imp hfront] at h
      cases h
    · exact hback

/-- Trimming loses nothing but white space. -/
theorem mem_trimList {cs : List Char} {c : Char} (h : isSpace c = false) :
    c ∈ trimList cs ↔ c ∈ cs := by
  rw [trimList, List.mem_reverse, mem_dropWhile_isSpace h, List.mem_reverse,
    mem_dropWhile_isSpace h]

theorem trimList_eq_nil {cs : List Char} (h : ∀ c ∈ cs, isSpace c = true) : trimList cs = [] := by
  have hdrop : cs.dropWhile isSpace = [] := List.dropWhile_eq_nil_iff.mpr h
  rw [trimList, hdrop]
  rfl

theorem dropWhile_lead {p : Char → Bool} (front : List Char) {rest : List Char}
    (h : ∀ c ∈ rest.head?, p c = false) :
    (front ++ rest).dropWhile p = front.dropWhile p ++ rest := by
  have hrest : rest.dropWhile p = rest := dropWhile_run (List.forall_mem_nil _) h
  rw [List.dropWhile_append, hrest]
  split
  · rename_i hempty
    rw [List.isEmpty_iff.mp hempty, List.nil_append]
  · rfl

theorem trimList_lead (front : List Char) {core back : List Char} (hne : core ≠ [])
    (hfirst : ∀ c ∈ core.head?, isSpace c = false) (hlast : ∀ c ∈ core.getLast?, isSpace c = false)
    (hback : ∀ c ∈ back, isSpace c = true) :
    trimList (front ++ (core ++ back)) = front.dropWhile isSpace ++ core := by
  have hhead : ∀ c ∈ (core ++ back).head?, isSpace c = false := by
    intro c hc
    rw [List.head?_append_of_ne_nil _ hne] at hc
    exact hfirst c hc
  have hend : ∀ c ∈ (front.dropWhile isSpace ++ core).reverse.head?, isSpace c = false := by
    intro c hc
    rw [List.head?_reverse, List.getLast?_append_of_ne_nil _ hne] at hc
    exact hlast c hc
  have hblank : ∀ c ∈ back.reverse, isSpace c = true := by
    intro c hc
    exact hback c (List.mem_reverse.mp hc)
  rw [trimList, dropWhile_lead front hhead, ← List.append_assoc, List.reverse_append,
    dropWhile_run hblank hend, List.reverse_reverse]

/-- White space around a text that does not begin or end with any is taken off. -/
theorem trimList_padded {front core back : List Char} (hfront : ∀ c ∈ front, isSpace c = true)
    (hfirst : ∀ c ∈ core.head?, isSpace c = false) (hlast : ∀ c ∈ core.getLast?, isSpace c = false)
    (hback : ∀ c ∈ back, isSpace c = true) : trimList (front ++ (core ++ back)) = core := by
  cases core with
  | nil => exact trimList_eq_nil (List.forall_mem_append.mpr ⟨hfront, hback⟩)
  | cons c core =>
    rw [trimList_lead front (List.cons_ne_nil c core) hfirst hlast hback,
      List.dropWhile_eq_nil_iff.mpr hfront, List.nil_append]

/-! ## Trimmed texts -/

/-- A text without white space at its ends. -/
structure Trimmed (cs : List Char) : Prop where
  first : ∀ c ∈ cs.head?, isSpace c = false
  last : ∀ c ∈ cs.getLast?, isSpace c = false

theorem trimmed_iff {cs : List Char} : Trimmed cs ↔
    cs.head?.all (!isSpace ·) = true ∧ cs.getLast?.all (!isSpace ·) = true := by
  simp only [Option.all_eq_true, Bool.not_eq_true']
  exact ⟨fun h => ⟨h.first, h.last⟩, fun h => ⟨h.1, h.2⟩⟩

instance (cs : List Char) : Decidable (Trimmed cs) :=
  decidable_of_iff _ trimmed_iff.symm

/-- A trimmed text does not begin or end with white space. -/
theorem trimmed_trimList (cs : List Char) : Trimmed (trimList cs) := by
  constructor
  · intro c hc
    obtain ⟨cut, hcut⟩ := List.dropWhile_suffix isSpace (l := (cs.dropWhile isSpace).reverse)
    have hwhole : cs.dropWhile isSpace = trimList cs ++ cut.reverse := by
      rw [trimList, ← List.reverse_append, hcut, List.reverse_reverse]
    refine head?_dropWhile isSpace cs c ?_
    rw [hwhole, List.head?_append]
    exact Option.mem_def.mpr (by rw [Option.mem_def.mp hc]; rfl)
  · intro c hc
    rw [trimList, List.getLast?_reverse] at hc
    exact head?_dropWhile isSpace _ c hc

/-- A trimmed text stays as it is. -/
theorem Trimmed.trimList_eq {cs : List Char} (h : Trimmed cs) : trimList cs = cs := by
  simpa using trimList_padded (List.forall_mem_nil _) h.first h.last (List.forall_mem_nil _)

end CubeClient.Text

namespace CubeClient

open CubeClient.Text

/-- White space. -/
structure Blanks where
  chars : List Char
  blank : ∀ c ∈ chars, isSpace c = true

namespace Blanks

def none : Blanks := ⟨[], List.forall_mem_nil _⟩

def space : Blanks := ⟨[' '], List.forall_mem_singleton.mpr rfl⟩

def tab : Blanks := ⟨['\t'], List.forall_mem_singleton.mpr rfl⟩

end Blanks

end CubeClient
