import CubeClient.NamedList
import Mathlib.Data.List.Nodup

/-!
# Looking names up

No two objects of a named list have one unique name, so what is found under a unique name is the
object that has it (`find?_eq_some_iff`). Under any other name the first object of that short name
is found (`get?_eq_some_iff`).
-/

namespace CubeClient.NamedList

variable {ι : Type} [Named ι] {list other : NamedList ι} {x y : ι} {name : String}

theorem ext (h : list.toList = other.toList) : list = other := by
  cases list
  cases other
  cases h
  rfl

/-- Two objects of a list do not share a unique name. -/
theorem eq_of_uniqueName (hx : x ∈ list.toList) (hy : y ∈ list.toList)
    (h : Named.uniqueName x = Named.uniqueName y) : x = y :=
  List.inj_on_of_nodup_map list.nodup hx hy h

theorem containsUnique_iff : list.containsUnique name = true ↔ name ∈ list.uniqueNames := by
  rw [containsUnique, List.contains_iff_mem]

theorem find?_eq_none_iff : list.find? name = none ↔ name ∉ list.uniqueNames := by
  simp [find?, uniqueNames]

/-- By its unique name, an object is found wherever it stands. -/
theorem find?_eq_some_iff :
    list.find? name = some x ↔ x ∈ list.toList ∧ Named.uniqueName x = name := by
  constructor
  · intro h
    have hname := List.find?_some h
    exact ⟨List.mem_of_find?_eq_some h, by simpa using hname⟩
  · rintro ⟨hx, rfl⟩
    cases hfind : list.find? (Named.uniqueName x) with
    | none => exact absurd (List.mem_map_of_mem hx) (find?_eq_none_iff.mp hfind)
    | some y =>
      have hname := List.find?_some hfind
      rw [eq_of_uniqueName (List.mem_of_find?_eq_some hfind) hx (by simpa using hname)]

/-- A unique name wins, and of objects with a short name the first one does. -/
theorem get?_eq_some_iff :
    list.get? name = some x ↔ (x ∈ list.toList ∧ Named.uniqueName x = name) ∨
      (name ∉ list.uniqueNames ∧ Named.name x = name ∧
        ∃ before after, list.toList = before ++ x :: after ∧
          ∀ y ∈ before, Named.name y ≠ name) := by
  rw [get?, Option.or_eq_some_iff, find?_eq_some_iff, find?_eq_none_iff,
    List.find?_eq_some_iff_append]
  simp

theorem mem_of_get? (h : list.get? name = some x) : x ∈ list.toList := by
  rcases Option.or_eq_some_iff.mp h with h | ⟨-, h⟩
  · exact List.mem_of_find?_eq_some h
  · exact List.mem_of_find?_eq_some h

end CubeClient.NamedList
