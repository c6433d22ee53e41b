import CubeClient.Proofs.Lists.Lookup
import Mathlib.Data.List.Induction

/-!
# What has been inserted

A named list is compared with the objects that have been inserted one after the other. It holds
those whose unique name was new when they came, in the order in which they came (`newcomers`); the
others have been refused and have changed nothing. `Holds` says what each way to look into the list
answers after that, whatever the names are and however unique and short names coincide.
-/

namespace CubeClient

variable {ι : Type} [Named ι] {items : List ι} {item : ι} {name : String}

/-! ## Objects with a new name -/

/-- The objects whose unique name no object before them has, in order. -/
def newcomers (items : List ι) : List ι :=
  (items.zipIdx.filter fun (item, position) =>
    Named.uniqueName item ∉ (items.take position).map Named.uniqueName).map (·.1)

theorem newcomers_nil : newcomers ([] : List ι) = [] :=
  rfl

/-- One more object is new if its name is, and takes nothing from those before it. -/
theorem newcomers_concat (items : List ι) (item : ι) :
    newcomers (items ++ [item]) = newcomers items ++
      if Named.uniqueName item ∈ items.map Named.uniqueName then [] else [item] := by
  have hbefore : items.zipIdx.filter (fun (x, position) =>
        Named.uniqueName x ∉ ((items ++ [item]).take position).map Named.uniqueName) =
      items.zipIdx.filter fun (x, position) =>
        Named.uniqueName x ∉ (items.take position).map Named.uniqueName := by
    refine List.filter_congr fun entry hentry => ?_
    have hposition : entry.2 < items.length := by
      have := (List.mem_zipIdx hentry).2.1
      omega
    dsimp only
    rw [List.take_append_of_le_length (Nat.le_of_lt hposition)]
  unfold newcomers
  rw [List.zipIdx_append, List.filter_append, List.map_append, hbefore, Nat.zero_add]
  congr 1
  show (List.filter _ [(item, items.length)]).map (·.1) = _
  split
  · rename_i hold
    rw [List.filter_cons_of_neg (by simpa using hold)]
    rfl
  · rename_i hnew
    rw [List.filter_cons_of_pos (by simpa using hnew)]
    rfl

/-- No name is lost with the objects that are left out. -/
theorem mem_names_newcomers :
    name ∈ (newcomers items).map Named.uniqueName ↔ name ∈ items.map Named.uniqueName := by
  induction items using List.reverseRecOn with
  | nil => rw [newcomers_nil]
  | append_singleton items item ih =>
    rw [newcomers_concat, List.map_append, List.map_append, List.mem_append, List.mem_append, ih]
    split
    · rename_i hold
      constructor
      · exact fun h => .inl (h.resolve_right List.not_mem_nil)
      · rintro (h | h)
        · exact .inl h
        · exact .inl (List.mem_singleton.mp h ▸ hold)
    · rfl

namespace NamedList

variable {list : NamedList ι} {x : ι}

/-! ## Insertions -/

/-- An object whose unique name is there is refused, and the list stays as it is. -/
theorem insert_of_mem (h : Named.uniqueName item ∈ list.uniqueNames) :
    list.insert item = (false, list) := by
  rw [insert, insert?_eq_none_iff.mpr h]

/-- An object whose unique name is new goes to the end. -/
theorem insert_of_notMem (h : Named.uniqueName item ∉ list.uniqueNames) :
    ∃ longer, list.insert item = (true, longer) ∧ longer.toList = list.toList ++ [item] := by
  obtain ⟨longer, hlonger⟩ :=
    Option.ne_none_iff_exists'.mp fun hnone => h (insert?_eq_none_iff.mp hnone)
  exact ⟨longer, by rw [insert, hlonger], toList_of_insert? hlonger⟩

/-- The list after insertions into an empty one. -/
def ofInserts (items : List ι) : NamedList ι :=
  items.foldl (fun list item => (list.insert item).2) .empty

theorem ofInserts_concat (items : List ι) (item : ι) :
    ofInserts (items ++ [item]) = ((ofInserts items).insert item).2 := by
  simp only [ofInserts, List.foldl_append, List.foldl_cons, List.foldl_nil]

/-- The objects of a list are those that came first with their unique names. -/
theorem toList_ofInserts (items : List ι) : (ofInserts items).toList = newcomers items := by
  induction items using List.reverseRecOn with
  | nil => rfl
  | append_singleton items item ih =>
    have hnames : Named.uniqueName item ∈ (ofInserts items).uniqueNames ↔
        Named.uniqueName item ∈ items.map Named.uniqueName := by
      rw [uniqueNames, ih]
      exact mem_names_newcomers
    rw [ofInserts_concat, newcomers_concat]
    split
    · rename_i hold
      rw [insert_of_mem (hnames.mpr hold), List.append_nil]
      exact ih
    · rename_i hnew
      obtain ⟨longer, hinsert, hlonger⟩ := insert_of_notMem (mt hnames.mp hnew)
      rw [hinsert, hlonger, ih]

/-- A list has the unique names of all objects that were ever inserted. -/
theorem mem_uniqueNames_ofInserts :
    name ∈ (ofInserts items).uniqueNames ↔ name ∈ items.map Named.uniqueName := by
  rw [uniqueNames, toList_ofInserts]
  exact mem_names_newcomers

/-! ## Looking up -/

/-- What is found under a name: the object that has it as its unique name, or else the first that
has it as its short name. -/
inductive Finds (list : NamedList ι) (name : String) : Option ι → Prop
  | unique {item : ι} (hmem : item ∈ list.toList) (h : Named.uniqueName item = name) :
    Finds list name (some item)
  | short {before after : List ι} {item : ι} (hfree : name ∉ list.uniqueNames)
      (hsplit : list.toList = before ++ item :: after) (h : Named.name item = name)
      (hbefore : ∀ other ∈ before, Named.name other ≠ name) : Finds list name (some item)
  | nothing (hfree : name ∉ list.uniqueNames) (hshort : name ∉ list.names) :
    Finds list name none

/-- A name is not found if no object has it, neither as its unique name nor as its short one. -/
theorem get?_eq_none_iff :
    list.get? name = none ↔ name ∉ list.uniqueNames ∧ name ∉ list.names := by
  rw [get?, Option.or_eq_none_iff, find?_eq_none_iff]
  simp [names]

theorem get?_eq_iff {answer : Option ι} : list.get? name = answer ↔ Finds list name answer := by
  cases answer with
  | none =>
    rw [get?_eq_none_iff]
    exact ⟨fun h => .nothing h.1 h.2, fun | .nothing hfree hshort => ⟨hfree, hshort⟩⟩
  | some item =>
    rw [get?_eq_some_iff]
    constructor
    · rintro (⟨hmem, h⟩ | ⟨hfree, h, before, after, hsplit, hbefore⟩)
      · exact .unique hmem h
      · exact .short hfree hsplit h hbefore
    · intro h
      cases h with
      | unique hmem h => exact .inl ⟨hmem, h⟩
      | short hfree hsplit h hbefore => exact .inr ⟨hfree, h, _, _, hsplit, hbefore⟩

theorem contains_iff : list.contains name = true ↔ ∃ item, list.get? name = some item :=
  Option.isSome_iff_exists

/-! ## The list after insertions -/

/-- A list holds what has been inserted. -/
structure Holds (items : List ι) (list : NamedList ι) : Prop where
  toList : list.toList = newcomers items
  /-- No two of the names under which objects are kept are equal. -/
  nodup : list.uniqueNames.Nodup
  /-- What is kept under a name is the object with this unique name. -/
  find? : ∀ name item,
    list.find? name = some item ↔ item ∈ list.toList ∧ Named.uniqueName item = name
  containsUnique : ∀ name, list.containsUnique name = true ↔ name ∈ items.map Named.uniqueName
  size : list.size = (newcomers items).length
  /-- The views of the list agree at every position. -/
  getIdx? : ∀ position, list.getIdx? position = (newcomers items)[position]?
  uniqueNames : ∀ position,
    list.uniqueNames[position]? = (list.getIdx? position).map Named.uniqueName
  names : ∀ position, list.names[position]? = (list.getIdx? position).map Named.name
  /-- A name that has been inserted before is refused, and nothing changes. -/
  taken : ∀ item, Named.uniqueName item ∈ items.map Named.uniqueName →
    list.insert item = (false, list)
  /-- Any other name is taken in at the end. -/
  free : ∀ item, Named.uniqueName item ∉ items.map Named.uniqueName →
    ∃ longer, list.insert item = (true, longer) ∧ longer.toList = list.toList ++ [item]
  get? : ∀ name answer, list.get? name = answer ↔ Finds list name answer
  contains : ∀ name, list.contains name = true ↔ ∃ item, list.get? name = some item
  /-- Under its unique name an object is found, whatever the short names of the others are. -/
  own : ∀ item ∈ list.toList, list.get? (Named.uniqueName item) = some item

/-- A list holds the first object of each unique name that has been inserted, in the order of the
insertions. -/
theorem ofInserts_holds (items : List ι) : Holds items (ofInserts items) where
  toList := toList_ofInserts items
  nodup := (ofInserts items).nodup
  find? name item := find?_eq_some_iff
  containsUnique name := containsUnique_iff.trans mem_uniqueNames_ofInserts
  size := congrArg List.length (toList_ofInserts items)
  getIdx? position := by rw [getIdx?, toList_ofInserts]
  uniqueNames position := List.getElem?_map
  names position := List.getElem?_map
  taken item h := insert_of_mem (mem_uniqueNames_ofInserts.mpr h)
  free item h := insert_of_notMem (mt mem_uniqueNames_ofInserts.mp h)
  get? name answer := get?_eq_iff
  contains name := contains_iff
  own item hitem := get?_eq_iff.mpr (.unique hitem rfl)

end NamedList

end CubeClient
