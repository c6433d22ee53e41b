/-!
# Named lists

A named list keeps objects in the order they were added and knows each by its unique name, of which
no two are equal. That is part of the type, so whatever is found under a unique name is the only
object of that name.

Objects have a short name too, which need not be unique. Looking a name up tries the unique names
first and then answers the first object of that short name.
-/

namespace CubeClient

/-- Objects that can be looked up by name. -/
class Named (α : Type) where
  name : α → String
  uniqueName : α → String := name

/-- Objects in the order they were added, with distinct unique names. -/
structure NamedList (α : Type) [Named α] where
  toList : List α
  nodup : (toList.map Named.uniqueName).Nodup

namespace NamedList

variable {α : Type} [Named α]

/-- No object. -/
def empty : NamedList α :=
  ⟨[], List.nodup_nil⟩

instance : Inhabited (NamedList α) :=
  ⟨empty⟩

/-- The unique names in order. -/
def uniqueNames (list : NamedList α) : List String :=
  list.toList.map Named.uniqueName

/-- The short names in order. -/
def names (list : NamedList α) : List String :=
  list.toList.map Named.name

/-- How many objects there are. -/
def size (list : NamedList α) : Nat :=
  list.toList.length

/-- The object of a unique name. -/
def find? (list : NamedList α) (uniqueName : String) : Option α :=
  list.toList.find? (Named.uniqueName · == uniqueName)

/-- Whether a unique name is taken. -/
def containsUnique (list : NamedList α) (uniqueName : String) : Bool :=
  list.uniqueNames.contains uniqueName

/-- The object of a unique name, or else the first of that short name. -/
def get? (list : NamedList α) (name : String) : Option α :=
  (list.find? name).or (list.toList.find? (Named.name · == name))

/-- Whether something is found under a name. -/
def contains (list : NamedList α) (name : String) : Bool :=
  (list.get? name).isSome

/-- The object at a position. -/
def getIdx? (list : NamedList α) (index : Nat) : Option α :=
  list.toList[index]?

/-- Adds an object at the end, unless its unique name is taken. -/
def insert? (list : NamedList α) (item : α) : Option (NamedList α) :=
  if h : Named.uniqueName item ∈ list.toList.map Named.uniqueName then none
  else
    some ⟨list.toList ++ [item], by
      rw [List.map_append, List.nodup_append]
      refine ⟨list.nodup, by simp, ?_⟩
      intro a ha b hb hab
      simp only [List.map_cons, List.map_nil, List.mem_singleton] at hb
      exact h (hb ▸ hab ▸ ha)⟩

/-- Adds an object if its unique name is not taken, and says whether it has been added. -/
def insert (list : NamedList α) (item : α) : Bool × NamedList α :=
  match list.insert? item with
  | some longer => (true, longer)
  | none => (false, list)

theorem toList_of_insert? {list list' : NamedList α} {item : α}
    (h : list.insert? item = some list') : list'.toList = list.toList ++ [item] := by
  unfold insert? at h
  split at h
  · simp at h
  · simp only [Option.some.injEq] at h
    rw [← h]

theorem insert?_eq_none_iff {list : NamedList α} {item : α} :
    list.insert? item = none ↔ Named.uniqueName item ∈ list.uniqueNames := by
  unfold insert? uniqueNames
  split <;> simp_all

end NamedList

end CubeClient
