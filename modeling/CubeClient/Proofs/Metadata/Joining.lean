import CubeClient.Metadata.Collection
import Mathlib.Data.List.Nodup

/-!
# Lists that are joined

Lists can be joined if no unique name stands in two of them, and then the whole is one list behind
the other, with nothing left out or moved. If some name comes again, it is the first such name that
is reported.
-/

namespace CubeClient

variable {ι : Type} [Named ι]

/-- No unique name is in two of the lists. -/
def NamedList.Apart (lists : List (NamedList ι)) : Prop :=
  lists.Pairwise fun list other => list.uniqueNames.Disjoint other.uniqueNames

/-- A unique name comes again, and none before it does. -/
def FirstRepeat (items : List ι) (name : String) : Prop :=
  ∃ before item after, items = before ++ item :: after ∧ Named.uniqueName item = name ∧
    (before.map Named.uniqueName).Nodup ∧ name ∈ before.map Named.uniqueName

/-- Where a name is repeated, names are not all different. -/
theorem FirstRepeat.not_nodup {items : List ι} {name : String} (h : FirstRepeat items name) :
    ¬ (items.map Named.uniqueName).Nodup := by
  obtain ⟨before, item, after, rfl, rfl, -, hmem⟩ := h
  rw [List.map_append, List.map_cons, List.nodup_append]
  rintro ⟨-, -, hapart⟩
  exact hapart _ hmem _ List.mem_cons_self rfl

/-- Lists are apart exactly if no name comes again in all of them together. -/
theorem NamedList.apart_iff_nodup {lists : List (NamedList ι)} :
    Apart lists ↔ ((lists.flatMap (·.toList)).map Named.uniqueName).Nodup := by
  rw [List.map_flatMap, List.nodup_flatMap]
  exact ⟨fun h => ⟨fun list _ => list.nodup, h⟩, fun h => h.2⟩

namespace Collection

/-- What becomes of objects that are to stand in one list. -/
inductive Joins (label : String) (items : List MetadataObject) :
    Except ClientError (NamedList MetadataObject) → Prop
  | joined {list : NamedList MetadataObject} (h : list.toList = items) :
      Joins label items (.ok list)
  | repeated {name : String} (h : FirstRepeat items name) :
      Joins label items (.error (.duplicateName label name))

/-- Joining lists ends with all their objects or with the first name that is repeated. -/
theorem joins_join (label : String) (lists : List (NamedList MetadataObject)) :
    Joins label (lists.flatMap (·.toList)) (join label lists) := by
  unfold join
  generalize lists.flatMap (·.toList) = items
  -- in the induction the list so far takes the place of the empty one
  change Joins label ((NamedList.empty : NamedList MetadataObject).toList ++ items) _
  generalize (NamedList.empty : NamedList MetadataObject) = list
  induction items generalizing list with
  | nil => exact .joined (List.append_nil _).symm
  | cons item items ih =>
    rw [List.foldlM_cons]
    cases hinsert : list.insert? item with
    | none =>
      have htaken := NamedList.insert?_eq_none_iff.mp hinsert
      exact .repeated ⟨list.toList, item, items, rfl, rfl, list.nodup, htaken⟩
    | some longer =>
      have hlonger := NamedList.toList_of_insert? hinsert
      rw [List.append_cons, ← hlonger]
      exact ih longer

variable {lists : List (NamedList MetadataObject)}

/-- Lists that share no unique name are joined. -/
theorem join_of_apart (label : String) (h : NamedList.Apart lists) :
    ∃ list, join label lists = .ok list ∧ list.toList = lists.flatMap (·.toList) := by
  have hjoins := joins_join label lists
  generalize join label lists = result at hjoins ⊢
  cases hjoins with
  | joined hlist => exact ⟨_, rfl, hlist⟩
  | repeated hname => exact absurd (NamedList.apart_iff_nodup.mp h) hname.not_nodup

/-- Lists that share one are refused with the first that comes again. -/
theorem join_of_not_apart (label : String) (h : ¬ NamedList.Apart lists) :
    ∃ name, join label lists = .error (.duplicateName label name) ∧
      FirstRepeat (lists.flatMap (·.toList)) name := by
  have hjoins := joins_join label lists
  generalize join label lists = result at hjoins ⊢
  cases hjoins with
  | @joined list hlist => exact absurd (NamedList.apart_iff_nodup.mpr (hlist ▸ list.nodup)) h
  | repeated hname => exact ⟨_, rfl, hname⟩

end Collection

end CubeClient
