import CubeClient.Toml.Scalar

/-!
# Tables of settings files

A table comes about in one of four ways: written as one value, opened by a header, named on the way
by the header of a table inside it, or named on the way by a dotted key. That decides what may still
be added to it: nothing to the first; keys and tables to one of a header; a header may open one that
was only named by headers; a dotted key adds only to tables that no header has opened. No key is
given twice.
-/

namespace CubeClient.Toml

/-- How a table came about. -/
inductive Origin where
  | inlined
  | opened
  | implied
  | dotted
  deriving DecidableEq, Repr

/-- What a key holds. The tables of one repeated header are apart from their last, to which later
keys belong. -/
inductive Item where
  | scalar (value : Scalar)
  | array (items : List Item)
  | table (origin : Origin) (entries : List (String × Item))
  | tables (earlier : List (List (String × Item))) (last : List (String × Item))

/-- What a table holds, in the order of the file. -/
abbrev Entries : Type := List (String × Item)

/-- A table with how it came about. -/
structure Table where
  origin : Origin
  entries : Entries

namespace Table

/-- A table as what a key holds. -/
def toItem (table : Table) : Item :=
  .table table.origin table.entries

/-- What a table holds under a key. -/
def get? (table : Table) (key : String) : Option Item :=
  table.entries.lookup key

/-- Replaces what a key holds, by what it holds so far; a new key comes last. -/
def alterEntries (key : String) (change : Option Item → Option Item) : Entries → Option Entries
  | [] => (change none).map fun item => [(key, item)]
  | (k, item) :: rest =>
    if k = key then (change (some item)).map fun item => (k, item) :: rest
    else (alterEntries key change rest).map ((k, item) :: ·)

/-- Replaces what a key holds, by what it holds so far; `none` refuses. -/
def alter (table : Table) (key : String) (change : Option Item → Option Item) : Option Table :=
  (alterEntries key change table.entries).map fun entries => { table with entries }

/-- What the keys on the way to a table belong to. -/
inductive Route where
  | header
  | key
  deriving DecidableEq, Repr

/-- The table that a way makes where there is none. -/
def Route.fresh : Route → Table
  | .header => ⟨.implied, []⟩
  | .key => ⟨.dotted, []⟩

/-- Whether a way may lead through a table. -/
def Route.admits (route : Route) : Origin → Bool
  | .inlined => false
  | .opened => route == .header
  | .implied => true
  | .dotted => true

/-- Changes the table at the end of a way; of the tables of a repeated header the way leads through
the last. -/
def changeAt (route : Route) (change : Table → Option Table) : List String → Table → Option Table
  | [], table => change table
  | key :: path, table =>
    table.alter key fun
      | none => (changeAt route change path route.fresh).map toItem
      | some (.table origin entries) =>
        if route.admits origin then (changeAt route change path ⟨origin, entries⟩).map toItem
        else none
      | some (.tables earlier last) =>
        (changeAt route change path ⟨.opened, last⟩).map fun table => .tables earlier table.entries
      | some _ => none

/-- Adds a value under a key. The table that it goes to is a dotted one exactly if the key is. -/
def addValue (table : Table) (key : Key) (item : Item) : Option Table :=
  changeAt .key (fun inner =>
    if (inner.origin == .dotted) == key.path.isEmpty then none
    else
      inner.alter key.last fun
        | none => some item
        | some _ => none) key.path table

/-- Opens a table by its header. -/
def openTable (table : Table) (key : Key) : Option Table :=
  changeAt .header (fun inner =>
    inner.alter key.last fun
      | none => some (.table .opened [])
      | some (.table .implied entries) => some (.table .opened entries)
      | some _ => none) key.path table

/-- Opens one more of the tables of a repeated header. -/
def openNext (table : Table) (key : Key) : Option Table :=
  changeAt .header (fun inner =>
    inner.alter key.last fun
      | none => some (.tables [] [])
      | some (.tables earlier last) => some (.tables (earlier ++ [last]) [])
      | some _ => none) key.path table

end Table

end CubeClient.Toml
