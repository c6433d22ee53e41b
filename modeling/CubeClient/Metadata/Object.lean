import CubeClient.Client.Basic
import CubeClient.Metadata.Code
import CubeClient.Metadata.Context
import CubeClient.NamedList

/-!
# Metadata objects

An object is what its row says about it, together with where it is: the connection it was read
through and the way from there, by collections and unique names. Of one connection no two objects
have the same place, so objects are the same exactly if their places are.

Names of objects above are not repeated in the object itself; they are in its context.
-/

namespace CubeClient

/-- The collections of the tree. -/
inductive CollectionKind where
  | catalogs
  | dataSources
  | literals
  | schemas
  | cubes
  | sharedDimensions
  | dimensions
  | measures
  | measureGroups
  | groupDimensions
  | groupMeasures
  | hierarchies
  | levels
  deriving DecidableEq, Repr

/-- A way into the tree, of a connection. -/
structure Place where
  connection : Nat
  path : List (CollectionKind × String)
  deriving DecidableEq, Repr

namespace Place

/-- The place of an object of a collection. -/
def child (place : Place) (kind : CollectionKind) (uniqueName : String) : Place :=
  { place with path := place.path ++ [(kind, uniqueName)] }

/-- The place one step back. -/
def parent (place : Place) : Place :=
  { place with path := place.path.dropLast }

/-- Whether a place is another one or on the way to it. -/
def isAbove (place other : Place) : Bool :=
  place.connection == other.connection && place.path.isPrefixOf other.path

end Place

/-- Where the collections of an object are, and through which client they are read. -/
structure Scope where
  client : Client
  place : Place
  context : Context
  deriving DecidableEq, Repr

/-- A database of the server. -/
structure Catalog where
  name : String
  description : Option String
  deriving DecidableEq, Repr

/-- A schema of a catalog. -/
structure Schema where
  name : String
  deriving DecidableEq, Repr

/-- Dimensions, measures and measure groups over one space of facts. -/
structure Cube where
  name : String
  caption : String
  description : Option String
  deriving DecidableEq, Repr

/-- A dimension of a cube, or one that the cubes of a schema share. -/
structure Dimension where
  name : String
  uniqueName : String
  caption : String
  description : Option String
  type : DimensionType
  ordinal : Option Int
  defaultHierarchy : Option String
  deriving DecidableEq, Repr

/-- A hierarchy of a dimension. -/
structure Hierarchy where
  name : String
  uniqueName : String
  caption : String
  description : Option String
  allMember : Option String
  defaultMember : Option String
  deriving DecidableEq, Repr

/-- Whether a hierarchy has a member above its top level. -/
def Hierarchy.hasAll (h : Hierarchy) : Bool :=
  h.allMember.isSome

/-- A level of a hierarchy. -/
structure Level where
  name : String
  uniqueName : String
  caption : String
  /-- The distance from the top of the hierarchy. -/
  depth : Int
  type : Int
  cardinality : Option Int
  deriving DecidableEq, Repr

/-- A measure of a cube. -/
structure Measure where
  name : String
  uniqueName : String
  caption : String
  description : Option String
  aggregator : Aggregator
  dataType : Option Int
  visible : Bool
  measureGroup : Option String
  deriving DecidableEq, Repr

/-- Measures are members, of the type for measures. -/
def Measure.memberType (_ : Measure) : MemberType :=
  .measure

/-- Measures of one grain, with the dimensions that they use. -/
structure MeasureGroup where
  name : String
  caption : String
  description : Option String
  deriving DecidableEq, Repr

namespace MeasureGroup

/-- A measure group has no unique name in its row. -/
def uniqueName (g : MeasureGroup) : String :=
  "[" ++ g.name ++ "]"

/-- Servers list visible groups only. -/
def visible (_ : MeasureGroup) : Bool :=
  true

end MeasureGroup

/-- A data source that the server offers. -/
structure DataSource where
  name : String
  /-- What to send to the server to choose this source. -/
  info : Option String
  url : Option String
  provider : Option String
  description : Option String
  deriving DecidableEq, Repr

/-- How one kind of literal is written. -/
structure Literal where
  name : String
  value : Option String
  invalidChars : Option String
  invalidStartingChars : Option String
  maxLength : Option Int
  deriving DecidableEq, Repr

/-- What a row says about an object. -/
inductive Detail where
  | catalog (catalog : Catalog)
  | schema (schema : Schema)
  | cube (cube : Cube)
  | dimension (dimension : Dimension)
  | hierarchy (hierarchy : Hierarchy)
  | level (level : Level)
  | measure (measure : Measure)
  | measureGroup (group : MeasureGroup)
  | dataSource (source : DataSource)
  | literal (literal : Literal)
  deriving DecidableEq, Repr

namespace Detail

/-- The short name. -/
def name : Detail → String
  | .catalog c => c.name
  | .schema s => s.name
  | .cube c => c.name
  | .dimension d => d.name
  | .hierarchy h => h.name
  | .level l => l.name
  | .measure m => m.name
  | .measureGroup g => g.name
  | .dataSource s => s.name
  | .literal l => l.name

/-- The unique name; for many kinds the short name is one. -/
def uniqueName : Detail → String
  | .dimension d => d.uniqueName
  | .hierarchy h => h.uniqueName
  | .level l => l.uniqueName
  | .measure m => m.uniqueName
  | .measureGroup g => g.uniqueName
  | detail => detail.name

end Detail

/-- An object of the tree. -/
structure MetadataObject where
  scope : Scope
  detail : Detail
  deriving DecidableEq, Repr

namespace MetadataObject

instance : Named MetadataObject where
  name o := o.detail.name
  uniqueName o := o.detail.uniqueName

/-- Whether two objects are one and the same. -/
def isSame (a b : MetadataObject) : Bool :=
  a.scope.place == b.scope.place

end MetadataObject

end CubeClient
