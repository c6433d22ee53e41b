import CubeClient.Deferred.Rows
import CubeClient.Metadata.Row

/-!
# Collections of the tree

A collection is one of the lists of an object, or of the connection itself. Its kind and its scope
determine the request it is filled from and how rows become objects. `Collection.build` makes an
object of a row: what the row says, and the scope of the object's own collections.

Two kinds of key are read: the collections themselves, and the lists derived from a collection of
dimensions by joining the hierarchies of all of them.
-/

namespace CubeClient

open CubeClient.Deferred CubeClient.Xml

/-- A collection of the tree. -/
structure Collection where
  scope : Scope
  kind : CollectionKind
  deriving DecidableEq, Repr

/-- What can be read: a collection, or the hierarchies of all dimensions of one. -/
inductive TreeKey where
  | listed (collection : Collection)
  | derived (dimensions : Collection)
  deriving DecidableEq, Repr

namespace CollectionKind

/-- The request that a collection is filled from. -/
def request : CollectionKind → RequestType
  | .catalogs => .catalogs
  | .dataSources => .dataSources
  | .literals => .literals
  | .schemas => .schemata
  | .cubes => .cubes
  | .sharedDimensions => .dimensions
  | .dimensions => .dimensions
  | .measures => .measures
  | .measureGroups => .measureGroups
  | .groupDimensions => .measureGroupDimensions
  | .groupMeasures => .measures
  | .hierarchies => .hierarchies
  | .levels => .levels

/-- The restrictions of a collection besides those to what is above it. -/
def ownRestrictions (kind : CollectionKind) (context : Context) : Restrictions :=
  match kind with
  | .sharedDimensions => Pairs.empty.push "CUBE_SOURCE" "2"
  | .groupDimensions | .groupMeasures =>
    Pairs.empty.push? "MEASUREGROUP_NAME" context.measureGroup
  | .hierarchies => Pairs.empty.push? "DIMENSION_UNIQUE_NAME" context.dimension
  | .levels =>
    (Pairs.empty.push? "DIMENSION_UNIQUE_NAME" context.dimension).push? "HIERARCHY_UNIQUE_NAME"
      context.hierarchy
  | _ => .empty

/-- Whether rows of objects that are already there are left out. -/
def merges : CollectionKind → Bool
  | .sharedDimensions | .dimensions | .hierarchies | .levels => true
  | _ => false

end CollectionKind

namespace Scope

/-- The scope of an object of a collection. -/
def child (scope : Scope) (kind : CollectionKind) (uniqueName : String) (context : Context) :
    Scope :=
  { scope with place := scope.place.child kind uniqueName, context }

/-- The scope of the cube that a measure group belongs to. -/
def cubeOfGroup (scope : Scope) : Scope :=
  { scope with place := scope.place.parent, context := { scope.context with measureGroup := none } }

end Scope

namespace Collection

/-- The query that a collection is filled from. -/
def query (c : Collection) : Query :=
  { request := c.kind.request
    restrictions :=
      ⟨c.scope.context.restrictions.entries ++ (c.kind.ownRestrictions c.scope.context).entries⟩ }

/-- The name of a collection in messages. -/
def label (c : Collection) : String :=
  c.query.label

/-- What a row says, and the context of the object's own collections. -/
def readRow (c : Collection) (row : Element) : Except ClientError (Detail × Context) := do
  let context := c.scope.context
  match c.kind with
  | .catalogs =>
    let catalog ← Catalog.ofRow row
    return (.catalog catalog, { context with catalog := some catalog.name })
  | .dataSources => return (.dataSource (← DataSource.ofRow row), context)
  | .literals => return (.literal (← Literal.ofRow row), context)
  | .schemas =>
    let schema ← Schema.ofRow row
    return (.schema schema, ← schema.scope context row)
  | .cubes =>
    let cube ← Cube.ofRow row
    return (.cube cube, cube.scope context row)
  | .sharedDimensions | .dimensions | .groupDimensions =>
    let dimension ← Dimension.ofRow row
    return (.dimension dimension, dimension.scope context row)
  | .measures | .groupMeasures => return (.measure (← Measure.ofRow context row), context)
  | .measureGroups =>
    let group ← MeasureGroup.ofRow row
    return (.measureGroup group, { context with measureGroup := some group.name })
  | .hierarchies =>
    let hierarchy ← Hierarchy.ofRow row
    return (.hierarchy hierarchy, hierarchy.scope context row)
  | .levels =>
    let level ← Level.ofRow row
    return (.level level, level.scope context row)

/-- Makes an object of a row. -/
def build (c : Collection) (row : Element) : Except ClientError MetadataObject :=
  (c.readRow row).map fun (detail, context) =>
    { scope := c.scope.child c.kind detail.uniqueName context, detail }

/-- The dimensions of the cube that a measure group's collection belongs to. -/
def cubeDimensions (c : Collection) : Collection :=
  { scope := c.scope.cubeOfGroup, kind := .dimensions }

/-- The error of a measure group whose cube is gone. -/
def cubeDropped (c : Collection) : ClientError :=
  .ownerDropped ("dimensions of cube " ++ c.scope.context.cube.getD "")

/-- The dimension of a measure group that a row refers to. It is the cube's own object; a row that
refers to none of the cube's dimensions, or to one that is already there, is left out. -/
def resolveDimension (c : Collection) : RowHandler TreeKey MetadataObject :=
  fun row list =>
    match Field.string row "DIMENSION_UNIQUE_NAME" with
    | .error error => .done (.error error)
    | .ok uniqueName =>
      if list.containsUnique uniqueName then .done (.ok none)
      else
        .owned (.listed c.cubeDimensions) fun
          | false => .done (.error c.cubeDropped)
          | true =>
            .read (.listed c.cubeDimensions) fun
              | .error error => .done (.error error)
              | .ok listing => .done (.ok (listing.items.get? uniqueName))

/-- What the rows of a collection become. -/
def handler (c : Collection) : RowHandler TreeKey MetadataObject :=
  if c.kind = .groupDimensions then c.resolveDimension
  else if c.kind.merges then .merging c.build
  else .plain c.build

/-- Asks for the rows of a collection. -/
def call (c : Collection) : Call (List Element) :=
  c.scope.client.discover c.query.request c.scope.context.catalog c.query.restrictions

/-- Fills a collection. -/
def program (c : Collection) : Population TreeKey MetadataObject :=
  populate c.label c.handler c.call

/-- The name of a derived list in messages. -/
def derivedLabel (c : Collection) : String :=
  "hierarchies of " ++ c.label

/-- Joins lists. The first unique name that comes again is refused. -/
def join (label : String) (lists : List (NamedList MetadataObject)) :
    Except ClientError (NamedList MetadataObject) :=
  (lists.flatMap (·.toList)).foldlM (fun list item =>
    match list.insert? item with
    | some list => .ok list
    | none => .error (.duplicateName label (Named.uniqueName item))) .empty

/-- Derives the hierarchies of all dimensions of a collection, in the order of the dimensions. -/
def derivedProgram (c : Collection) : Population TreeKey MetadataObject :=
  .read (.listed c) fun
    | .error error => .done (.error error)
    | .ok dimensions =>
      .readAll (dimensions.items.toList.map fun d => .listed ⟨d.scope, .hierarchies⟩) fun
        | .error error => .done (.error error)
        | .ok listings => .done (join c.derivedLabel (listings.map (·.items)))

end Collection

namespace TreeKey

/-- The collection that is read, itself or for its hierarchies. -/
def collection : TreeKey → Collection
  | .listed c => c
  | .derived c => c

/-- The collections of the tree. -/
def family : Family TreeKey MetadataObject where
  label
    | .listed c => c.label
    | .derived c => c.derivedLabel
  program
    | .listed c => c.program
    | .derived c => c.derivedProgram

end TreeKey

end CubeClient
