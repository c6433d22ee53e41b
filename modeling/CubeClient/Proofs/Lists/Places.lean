import Mathlib.Data.List.Basic

/-!
# Places in a list that grows

An element of a list is told from equal ones by what is in front of it and what is behind. When an
element is added at the end, the new one gets the last place (`concat_eq_append_cons_iff`), and the
last of a kind is either the new one or the one that was before (`exists_last_concat`).
-/

namespace CubeClient

variable {α : Type} {xs before after : List α} {x last : α}

/-- A place in a list with one more element is the last one, or a place in the list. -/
theorem concat_eq_append_cons_iff : xs ++ [last] = before ++ x :: after ↔
    (xs = before ∧ last = x ∧ after = []) ∨
      ∃ init, xs = before ++ x :: init ∧ after = init ++ [last] := by
  constructor
  · intro h
    rcases List.eq_nil_or_concat' after with rfl | ⟨init, final, rfl⟩
    · obtain ⟨hxs, hlast⟩ := List.append_inj' h rfl
      exact .inl ⟨hxs, List.singleton_inj.mp hlast, rfl⟩
    · rw [← List.cons_append, ← List.append_assoc] at h
      obtain ⟨hxs, hlast⟩ := List.append_inj' h rfl
      exact .inr ⟨init, hxs, by rw [hlast]⟩
  · rintro (⟨rfl, rfl, rfl⟩ | ⟨init, rfl, rfl⟩)
    · rfl
    · rw [← List.cons_append, ← List.append_assoc]

/-- An element behind which all are of a kind is the last one, or it was one before and the last is
of that kind. -/
theorem exists_last_concat {kind : α → Prop} :
    (∃ before after, xs ++ [last] = before ++ x :: after ∧ ∀ y ∈ after, kind y) ↔
      last = x ∨
        (kind last ∧ ∃ before after, xs = before ++ x :: after ∧ ∀ y ∈ after, kind y) := by
  constructor
  · rintro ⟨before, after, hsplit, hafter⟩
    obtain ⟨-, hlast, -⟩ | ⟨init, hxs, rfl⟩ := concat_eq_append_cons_iff.mp hsplit
    · exact .inl hlast
    · obtain ⟨hinit, hkind⟩ := List.forall_mem_append.mp hafter
      exact .inr ⟨hkind last List.mem_cons_self, before, init, hxs, hinit⟩
  · rintro (rfl | ⟨hkind, before, after, rfl, hafter⟩)
    · exact ⟨xs, [], rfl, fun _ h => absurd h List.not_mem_nil⟩
    · refine ⟨before, after ++ [last], concat_eq_append_cons_iff.mpr (.inr ⟨after, rfl, rfl⟩), ?_⟩
      exact List.forall_mem_append.mpr ⟨hafter, List.forall_mem_singleton.mpr hkind⟩

end CubeClient
