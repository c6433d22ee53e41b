import CubeClient.NamedList
import Mathlib.Data.List.Basic

/-!
# The first object of each name

Rows bring objects, and a row may bring one whose unique name a row before has brought already. A
list gathers the rows if it holds of each unique name the first object that comes, in the order in
which these names first come (`Gathers`). What is gathered grows row by row: a row that brings
nothing new leaves the list as it is (`Gathers.skip`), and a new name goes to the end
(`Gathers.add`).
-/

namespace CubeClient

variable {ρ ι : Type} [Named ι] {bring : ρ → Option ι} {rows : List ρ} {row : ρ} {list : List ι}
  {item : ι} {name : String}

/-- Whether a row brings an object of a unique name. -/
def brings (bring : ρ → Option ι) (name : String) (row : ρ) : Bool :=
  (bring row).any (Named.uniqueName · == name)

theorem brings_iff :
    brings bring name row = true ↔
      ∃ item, bring row = some item ∧ Named.uniqueName item = name := by
  simp [brings, Option.any_eq_true]

/-- The first object of each unique name that rows bring, in the order in which the names come. -/
structure Gathers (bring : ρ → Option ι) (rows : List ρ) (list : List ι) : Prop where
  mem_iff : ∀ {item : ι},
    item ∈ list ↔ (rows.find? (brings bring (Named.uniqueName item))).bind bring = some item
  ordered : list.Pairwise fun item other =>
    rows.findIdx (brings bring (Named.uniqueName item)) <
      rows.findIdx (brings bring (Named.uniqueName other))

/-- A row at the end does not change what is found if it is one of a kind that was there before. -/
theorem find?_concat_of_old {p : ρ → Bool} (h : p row = true → ∃ old ∈ rows, p old = true) :
    (rows ++ [row]).find? p = rows.find? p := by
  rw [List.find?_append]
  cases hfind : rows.find? p with
  | some old => rfl
  | none =>
    have hrow : ¬ p row = true := fun hp => by
      obtain ⟨old, hold, hpold⟩ := h hp
      exact List.find?_eq_none.mp hfind old hold hpold
    rw [List.find?_singleton, if_neg hrow]
    rfl

namespace Gathers

theorem nil : Gathers bring [] [] where
  mem_iff := by simp
  ordered := .nil

/-- Every object of the list is brought by a row. -/
theorem exists_row (h : Gathers bring rows list) (hitem : item ∈ list) :
    ∃ row ∈ rows, bring row = some item := by
  obtain ⟨row, hfind, hbring⟩ := Option.bind_eq_some_iff.mp (h.mem_iff.mp hitem)
  exact ⟨row, List.mem_of_find?_eq_some hfind, hbring⟩

/-- The names of the list are those that the rows bring. -/
theorem mem_names_iff (h : Gathers bring rows list) :
    name ∈ list.map Named.uniqueName ↔ ∃ row ∈ rows, brings bring name row = true := by
  constructor
  · intro hname
    obtain ⟨item, hitem, rfl⟩ := List.mem_map.mp hname
    obtain ⟨row, hrow, hbring⟩ := h.exists_row hitem
    exact ⟨row, hrow, brings_iff.mpr ⟨item, hbring, rfl⟩⟩
  · intro hsome
    obtain ⟨first, hfirst⟩ := Option.isSome_iff_exists.mp (List.find?_isSome.mpr hsome)
    obtain ⟨item, hbring, rfl⟩ := brings_iff.mp (List.find?_some hfirst)
    refine List.mem_map_of_mem (h.mem_iff.mpr ?_)
    rw [hfirst]
    exact hbring

theorem findIdx_lt (h : Gathers bring rows list) (hitem : item ∈ list) :
    rows.findIdx (brings bring (Named.uniqueName item)) < rows.length :=
  List.findIdx_lt_length.mpr (h.mem_names_iff.mp (List.mem_map_of_mem hitem))

theorem findIdx_append (h : Gathers bring rows list) (hitem : item ∈ list) (more : List ρ) :
    (rows ++ more).findIdx (brings bring (Named.uniqueName item)) =
      rows.findIdx (brings bring (Named.uniqueName item)) := by
  rw [List.findIdx_append, if_pos (h.findIdx_lt hitem)]

/-- More rows do not change where the names of the list first come. -/
theorem ordered_append (h : Gathers bring rows list) (more : List ρ) :
    list.Pairwise fun item other =>
      (rows ++ more).findIdx (brings bring (Named.uniqueName item)) <
        (rows ++ more).findIdx (brings bring (Named.uniqueName other)) := by
  refine h.ordered.imp_of_mem fun hitem hother hlt => ?_
  rwa [h.findIdx_append hitem, h.findIdx_append hother]

/-- A row that brings no new name changes nothing. -/
theorem skip (h : Gathers bring rows list)
    (hrow : ∀ item, bring row = some item → Named.uniqueName item ∈ list.map Named.uniqueName) :
    Gathers bring (rows ++ [row]) list where
  mem_iff {item} := by
    rw [find?_concat_of_old fun hbrings => ?_]
    · exact h.mem_iff
    · obtain ⟨old, hold, hname⟩ := brings_iff.mp hbrings
      exact h.mem_names_iff.mp (hname ▸ hrow old hold)
  ordered := h.ordered_append [row]

/-- A row that brings a new name adds its object at the end. -/
theorem add (h : Gathers bring rows list) (hrow : bring row = some item)
    (hnew : Named.uniqueName item ∉ list.map Named.uniqueName) :
    Gathers bring (rows ++ [row]) (list ++ [item]) where
  mem_iff {other} := by
    have hbrings : brings bring (Named.uniqueName item) row = true :=
      brings_iff.mpr ⟨item, hrow, rfl⟩
    have hnone := mt h.mem_names_iff.mpr hnew
    rw [List.mem_append, List.mem_singleton]
    by_cases hname : Named.uniqueName other = Named.uniqueName item
    · have hother : other ∉ list := fun hmem => hnew (hname ▸ List.mem_map_of_mem hmem)
      have hfind : rows.find? (brings bring (Named.uniqueName item)) = none :=
        List.find?_eq_none.mpr fun old hold hp => hnone ⟨old, hold, hp⟩
      rw [hname, List.find?_append, hfind, List.find?_singleton, if_pos hbrings, Option.none_or,
        Option.bind_some, hrow, Option.some.injEq]
      exact ⟨fun hor => (hor.resolve_left hother).symm, fun heq => .inr heq.symm⟩
    · rw [find?_concat_of_old fun hp => ?_, ← h.mem_iff]
      · exact ⟨fun hor => hor.resolve_right fun heq => hname (heq ▸ rfl), .inl⟩
      · obtain ⟨brought, hbrought, heq⟩ := brings_iff.mp hp
        obtain rfl := Option.some.inj (hrow.symm.trans hbrought)
        exact absurd heq.symm hname
  ordered := by
    refine List.pairwise_append.mpr ⟨h.ordered_append [row], List.pairwise_singleton _ _, ?_⟩
    intro old hold new hnewMem
    obtain rfl := List.mem_singleton.mp hnewMem
    -- the name of the last object comes in the last row and in none before
    have hlast : rows.length ≤ (rows ++ [row]).findIdx (brings bring (Named.uniqueName new)) := by
      rw [List.findIdx_append, if_neg fun hlt => hnew (h.mem_names_iff.mpr
        (List.findIdx_lt_length.mp hlt))]
      exact Nat.le_add_left _ _
    rw [h.findIdx_append hold]
    exact Nat.lt_of_lt_of_le (h.findIdx_lt hold) hlast

/-- Of two objects of the list, a row brings the one before any brings the other. -/
theorem comes_before (h : Gathers bring rows list) : list.Pairwise fun item other =>
    ∃ before row after, rows = before ++ row :: after ∧ bring row = some item ∧
      ∀ earlier ∈ before ++ [row], bring earlier ≠ some other := by
  refine h.ordered.imp_of_mem fun {item other} hitem _ hlt => ?_
  obtain ⟨row, hfind, hbring⟩ := Option.bind_eq_some_iff.mp (h.mem_iff.mp hitem)
  obtain ⟨-, before, after, rfl, hbefore⟩ := List.find?_eq_some_iff_append.mp hfind
  refine ⟨before, row, after, rfl, hbring, fun earlier hearlier hother => ?_⟩
  have hfirst : before.length ≤
      (before ++ row :: after).findIdx (brings bring (Named.uniqueName item)) := by
    rw [List.findIdx_append, if_neg fun hshort => ?_]
    · exact Nat.le_add_left _ _
    · obtain ⟨x, hx, hbrings⟩ := List.findIdx_lt_length.mp hshort
      simpa [hbrings] using hbefore x hx
  have hsecond : (before ++ row :: after).findIdx (brings bring (Named.uniqueName other)) <
      (before ++ [row]).length := by
    have hshort : (before ++ [row]).findIdx (brings bring (Named.uniqueName other)) <
        (before ++ [row]).length :=
      List.findIdx_lt_length.mpr ⟨earlier, hearlier, brings_iff.mpr ⟨other, hother, rfl⟩⟩
    rw [List.append_cons, List.findIdx_append, if_pos hshort]
    exact hshort
  rw [List.length_append, List.length_singleton] at hsecond
  omega

end Gathers

end CubeClient
