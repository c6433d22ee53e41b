/-!
# Ordered pairs

Restrictions and properties are lists of names with values. Their order is kept, because some
servers stop at the first one they recognise, and a name may come more than once; looking one up
answers the first.
-/

namespace CubeClient

/-- Names with values, in order. -/
structure Pairs where
  entries : List (String × String)
  deriving DecidableEq, Repr

/-- What a Discover request is narrowed to. -/
abbrev Restrictions := Pairs

/-- What a request asks of the server besides its rows. -/
abbrev Properties := Pairs

namespace Pairs

/-- No pair. -/
def empty : Pairs :=
  ⟨[]⟩

/-- One more pair at the end. -/
def push (pairs : Pairs) (key value : String) : Pairs :=
  ⟨pairs.entries ++ [(key, value)]⟩

/-- One more pair at the end if there is a value for it. -/
def push? (pairs : Pairs) (key : String) (value : Option String) : Pairs :=
  match value with
  | some v => pairs.push key v
  | none => pairs

/-- The names in order. -/
def keys (pairs : Pairs) : List String :=
  pairs.entries.map (·.1)

/-- The value of the first pair of a name. -/
def get? (pairs : Pairs) (key : String) : Option String :=
  (pairs.entries.find? (·.1 == key)).map (·.2)

theorem get?_eq_none_iff {pairs : Pairs} {key : String} :
    pairs.get? key = none ↔ key ∉ pairs.keys := by
  rw [get?, Option.map_eq_none_iff, List.find?_eq_none, keys, List.mem_map]
  constructor
  · rintro h ⟨pair, hpair, rfl⟩
    exact h pair hpair (beq_self_eq_true _)
  · intro h pair hpair hkey
    exact h ⟨pair, hpair, eq_of_beq hkey⟩

/-- How many pairs there are. -/
def size (pairs : Pairs) : Nat :=
  pairs.entries.length

end Pairs

/-- The properties of a request for metadata. -/
def Properties.discover (catalog dataSourceInfo : Option String) : Properties :=
  (((Pairs.empty.push? "DataSourceInfo" dataSourceInfo).push? "Catalog" catalog).push
    "Format" "Tabular").push "Content" "SchemaData"

/-- The properties of a query. -/
def Properties.execute (catalog dataSourceInfo : Option String) : Properties :=
  (((Pairs.empty.push? "DataSourceInfo" dataSourceInfo).push? "Catalog" catalog).push
    "Format" "Multidimensional").push "AxisFormat" "TupleFormat"

end CubeClient
