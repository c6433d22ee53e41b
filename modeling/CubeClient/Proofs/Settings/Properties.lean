import CubeClient.Settings.ConnectString
import Mathlib.Data.List.Induction

/-!
# The properties of a connect string

Properties are kept under one key each. A key that names a known property, by its canonical key or
by another, in any letter case, is kept under the canonical key, and every other key as it is
(`renames_canonicalKey`); which of the two it is can always be told, since no key names two
properties (`Property.NamedBy.unique`).

Setting the pairs of a list one after the other merges them (`merges_foldl`): a key has the place at
which it came first and the value that came with it last.
-/

namespace CubeClient

open CubeClient.Text

namespace Property

theorem mem_all (p : Property) : p ∈ all := by
  cases p <;> decide

/-- A key that is one of the names of the property, up to the case of its letters. -/
def NamedBy (property : Property) (key : String) : Prop :=
  ∃ name ∈ property.key :: property.aliases, lower key = lower name

theorem any_eq_true_iff {p : Property} {key : String} :
    (p.key :: p.aliases).any (sameIgnoringCase key) = true ↔ p.NamedBy key := by
  simp only [List.any_eq_true, sameIgnoringCase, beq_iff_eq, NamedBy]

/-- No two properties share a name. -/
theorem NamedBy.unique {p q : Property} {key : String} (hp : p.NamedBy key) (hq : q.NamedBy key) :
    p = q := by
  obtain ⟨name, hname, heq⟩ := hp
  obtain ⟨name', hname', heq'⟩ := hq
  have hapart : ∀ p ∈ all, ∀ q ∈ all, ∀ name ∈ p.key :: p.aliases,
      ∀ name' ∈ q.key :: q.aliases, lower name = lower name' → p = q := by
    decide
  exact hapart p p.mem_all q q.mem_all name hname name' hname' (heq.symm.trans heq')

theorem namedBy_key (p : Property) : p.NamedBy p.key :=
  ⟨p.key, List.mem_cons_self, rfl⟩

/-- No two properties have one key. -/
theorem key_injective : Function.Injective key := by
  intro p q h
  exact p.namedBy_key.unique (h ▸ q.namedBy_key)

theorem namedBy_of_ofKey? {key : String} {p : Property} (h : ofKey? key = some p) :
    p.NamedBy key :=
  any_eq_true_iff.mp
    (List.find?_some (p := fun p : Property => (p.key :: p.aliases).any (sameIgnoringCase key)) h)

theorem ofKey?_eq_none_iff {key : String} :
    ofKey? key = none ↔ ∀ p : Property, ¬ p.NamedBy key := by
  simp only [ofKey?, List.find?_eq_none, any_eq_true_iff]
  exact ⟨fun h p => h p p.mem_all, fun h p _ => h p⟩

/-- A key is that of a property exactly if it names it, in whatever case. -/
theorem ofKey?_eq_some_iff {key : String} {p : Property} : ofKey? key = some p ↔ p.NamedBy key := by
  refine ⟨namedBy_of_ofKey?, fun h => ?_⟩
  cases hkey : ofKey? key with
  | none => exact absurd h (ofKey?_eq_none_iff.mp hkey p)
  | some q => rw [(namedBy_of_ofKey? hkey).unique h]

end Property

/-- The key that a property is kept under: the canonical one of a property that the key names, and
the key itself if it names none. -/
def Renames (key kept : String) : Prop :=
  (∃ p : Property, p.NamedBy key ∧ kept = p.key) ∨ (∀ p : Property, ¬ p.NamedBy key) ∧ kept = key

namespace ConnectString

/-- A key that names a property is kept under the property's own key. -/
theorem renames_canonicalKey (key : String) : Renames key (canonicalKey key) := by
  cases h : Property.ofKey? key with
  | none => exact .inr ⟨Property.ofKey?_eq_none_iff.mp h, by rw [canonicalKey, h]; rfl⟩
  | some p => exact .inl ⟨p, Property.ofKey?_eq_some_iff.mp h, by rw [canonicalKey, h]; rfl⟩

theorem canonicalKey_key (p : Property) : canonicalKey p.key = p.key := by
  rw [canonicalKey, Property.ofKey?_eq_some_iff.mpr p.namedBy_key]
  rfl

/-- Pairs with each key once: in the order in which the keys came first, and with the values that
came with them last. -/
structure Merges (pairs kept : List (String × String)) : Prop where
  keys : kept.map Prod.fst = (pairs.map Prod.fst).eraseDups
  values : ∀ key, kept.lookup key = pairs.reverse.lookup key

theorem any_key_iff {kept : List (String × String)} {key : String} :
    kept.any (·.1 == key) = true ↔ key ∈ kept.map Prod.fst := by
  simp only [List.any_eq_true, beq_iff_eq, List.mem_map]

/-- A key keeps its first place. -/
theorem keys_set (kept : List (String × String)) (key value : String) :
    (set kept key value).map Prod.fst =
      if key ∈ kept.map Prod.fst then kept.map Prod.fst else kept.map Prod.fst ++ [key] := by
  unfold set
  by_cases h : key ∈ kept.map Prod.fst
  · rw [if_pos (any_key_iff.mpr h), if_pos h, List.map_map]
    refine List.map_congr_left fun pair _ => ?_
    by_cases hk : pair.1 = key <;> simp [hk]
  · rw [if_neg (mt any_key_iff.mp h), if_neg h, List.map_append]
    rfl

theorem lookup_eq_none_iff_notMem {kept : List (String × String)} {key : String} :
    kept.lookup key = none ↔ key ∉ kept.map Prod.fst := by
  simp only [List.lookup_eq_none_iff, bne_iff_ne, List.mem_map, not_exists, not_and]
  exact ⟨fun h pair hpair hkey => h pair hpair hkey.symm,
    fun h pair hpair hkey => h pair hpair hkey.symm⟩

/-- A value that is put in the place of another is found under the same key. -/
theorem lookup_map_set (kept : List (String × String)) (key value k : String) :
    (kept.map fun (k, v) => if k == key then (k, value) else (k, v)).lookup k =
      if k = key then (kept.lookup k).map fun _ => value else kept.lookup k := by
  induction kept with
  | nil => simp
  | cons pair kept ih =>
    obtain ⟨first, v⟩ := pair
    rw [List.map_cons]
    by_cases hfirst : k = first
    · subst hfirst
      by_cases hk : k = key <;> simp [hk]
    · have hne : (k == first) = false := by simpa using hfirst
      have hskip : ∀ (v' : String) (rest : List (String × String)),
          ((first, v') :: rest).lookup k = rest.lookup k := by
        intro v' rest
        rw [List.lookup_cons, hne]
      rw [hskip v kept, ← ih]
      dsimp only
      split <;> exact hskip _ _

/-- A key has the value that it was set to last. -/
theorem lookup_set (kept : List (String × String)) (key value k : String) :
    (set kept key value).lookup k = if k = key then some value else kept.lookup k := by
  unfold set
  by_cases hmem : key ∈ kept.map Prod.fst
  · rw [if_pos (any_key_iff.mpr hmem), lookup_map_set]
    by_cases hk : k = key
    · obtain ⟨v, hv⟩ := Option.ne_none_iff_exists'.mp
        (mt lookup_eq_none_iff_notMem.mp (not_not_intro hmem))
      rw [if_pos hk, if_pos hk, hk, hv]
      rfl
    · rw [if_neg hk, if_neg hk]
  · rw [if_neg (mt any_key_iff.mp hmem), List.lookup_append]
    by_cases hk : k = key
    · rw [if_pos hk, hk, lookup_eq_none_iff_notMem.mpr hmem]
      simp
    · have hne : (k == key) = false := by simpa using hk
      simp [hk, hne, List.lookup_cons]

/-- One more pair. -/
theorem Merges.set {pairs kept : List (String × String)} (h : Merges pairs kept)
    (key value : String) : Merges (pairs ++ [(key, value)]) (set kept key value) where
  keys := by
    have hmem : key ∈ kept.map Prod.fst ↔ key ∈ pairs.map Prod.fst := by
      rw [h.keys, List.mem_eraseDups]
    have hnew : (([key] : List String).removeAll (pairs.map Prod.fst)).eraseDups =
        if key ∈ pairs.map Prod.fst then [] else [key] := by
      by_cases hk : key ∈ pairs.map Prod.fst
      · rw [if_pos hk, List.removeAll, List.filter_cons_of_neg (by simpa using hk)]
        rfl
      · rw [if_neg hk, List.removeAll, List.filter_cons_of_pos (by simpa using hk)]
        rfl
    rw [keys_set, List.map_append, List.eraseDups_append, ← h.keys, List.map_singleton, hnew]
    by_cases hk : key ∈ kept.map Prod.fst
    · rw [if_pos hk, if_pos (hmem.mp hk), List.append_nil]
    · rw [if_neg hk, if_neg (mt hmem.mpr hk)]
  values := by
    intro k
    rw [lookup_set, List.reverse_append, List.reverse_singleton, List.singleton_append,
      List.lookup_cons]
    by_cases hk : k = key
    · simp [hk]
    · have hne : (k == key) = false := by simpa using hk
      rw [if_neg hk, hne, h.values]

/-- Setting pairs one after the other, from no property on. -/
theorem merges_foldl (pairs : List (String × String)) :
    Merges pairs (pairs.foldl (fun kept pair => set kept pair.1 pair.2) []) := by
  induction pairs using List.reverseRecOn with
  | nil => exact ⟨rfl, fun _ => rfl⟩
  | append_singleton pairs pair ih =>
    rw [List.foldl_append]
    exact ih.set pair.1 pair.2

end ConnectString

end CubeClient
