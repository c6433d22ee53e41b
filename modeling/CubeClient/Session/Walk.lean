import CubeClient.Session.Basic

/-!
# Walking the tree

A path leads from the connection, or from a held object, to an object: in turn the name of a
collection and the key of an object in it, a position or a name. Two names take no key: the current
catalog of a connection, and the default hierarchy of a dimension. Every walk reads the collections
on its way anew, so it may send requests, and it may fail with their errors.
-/

namespace CubeClient

open CubeClient.Deferred

/-- A step of a path. -/
inductive Segment where
  | name (text : String)
  | index (position : Nat)
  deriving DecidableEq, Repr

/-- Where a walk is. -/
inductive Spot where
  | connection (connection : Connection)
  | object (object : MetadataObject)

/-- Why a walk ends before its goal. -/
inductive WalkFault where
  /-- The segment that found nothing. -/
  | missing (segment : Nat)
  | failed (error : ClientError)
  /-- The path makes no sense. -/
  | senseless (reason : String)

/-- What a walk leads to, and what is left of the session. -/
abbrev Walked (α : Type) := Except WalkFault α × Session

namespace MetadataObject

/-- The collection of an object that has a name. -/
def collection? (object : MetadataObject) (name : String) : Option TreeKey :=
  let listed (kind : CollectionKind) : Option TreeKey := some (.listed ⟨object.scope, kind⟩)
  match object.detail, name with
  | .catalog _, "schemas" => listed .schemas
  | .schema _, "cubes" => listed .cubes
  | .schema _, "shared_dimensions" => listed .sharedDimensions
  | .cube _, "dimensions" => listed .dimensions
  | .cube _, "measures" => listed .measures
  | .cube _, "measure_groups" => listed .measureGroups
  | .cube _, "hierarchies" => some (.derived ⟨object.scope, .dimensions⟩)
  | .measureGroup _, "dimensions" => listed .groupDimensions
  | .measureGroup _, "measures" => listed .groupMeasures
  | .measureGroup _, "hierarchies" => some (.derived ⟨object.scope, .groupDimensions⟩)
  | .dimension _, "hierarchies" => listed .hierarchies
  | .hierarchy _, "levels" => listed .levels
  | _, _ => none

end MetadataObject

namespace Connection

/-- The root collection that has a name. -/
def collection? (connection : Connection) (name : String) : Option TreeKey :=
  match name with
  | "catalogs" => some (.listed ⟨connection.scope, .catalogs⟩)
  | "data_sources" => some (.listed ⟨connection.scope, .dataSources⟩)
  | "literals" => some (.listed ⟨connection.scope, .literals⟩)
  | _ => none

/-- The current catalog: the session's, or else the first. -/
def pickCatalog (connection : Connection) (catalogs : NamedList MetadataObject) :
    Option MetadataObject :=
  match connection.client.session.catalog with
  | some name => catalogs.get? name
  | none => catalogs.getIdx? 0

end Connection

namespace Dimension

/-- The default hierarchy: the one that the row names, or else the first. -/
def pickHierarchy (dimension : Dimension) (hierarchies : NamedList MetadataObject) :
    Option MetadataObject :=
  (dimension.defaultHierarchy.bind hierarchies.get?).or (hierarchies.getIdx? 0)

end Dimension

namespace Spot

/-- The collection of a spot that has a name. -/
def collection? (spot : Spot) (name : String) : Option TreeKey :=
  match spot with
  | .connection c => c.collection? name
  | .object o => o.collection? name

/-- A collection to read and the object to pick from it, for the names that take no key. -/
def pick? (spot : Spot) (name : String) :
    Option (TreeKey × (NamedList MetadataObject → Option MetadataObject)) :=
  match spot, name with
  | .connection c, "catalog" => some (.listed ⟨c.scope, .catalogs⟩, c.pickCatalog)
  | .object ⟨scope, .dimension d⟩, "default_hierarchy" =>
    some (.listed ⟨scope, .hierarchies⟩, d.pickHierarchy)
  | _, _ => none

end Spot

/-- The object of a key. -/
def Segment.select {ι : Type} [Named ι] (key : Segment) (list : NamedList ι) : Option ι :=
  match key with
  | .name text => list.get? text
  | .index position => list.getIdx? position

namespace Session

/-- Reads a collection and picks an object from it. -/
def readAndPick (s : Session) (position : Nat) (key : TreeKey)
    (select : NamedList MetadataObject → Option MetadataObject) : Walked MetadataObject :=
  match s.read key with
  | (.error error, s) => (.error (.failed error), s)
  | (.ok listing, s) =>
    match select listing.items with
    | some object => (.ok object, s)
    | none => (.error (.missing position), s)

/-- Walks on from a spot. -/
def walkFrom (s : Session) (position : Nat) (spot : Spot) : List Segment → Walked Spot
  | [] => (.ok spot, s)
  | .index n :: _ => (.error (.senseless (toString n)), s)
  | .name text :: rest =>
    match spot.pick? text with
    | some (key, select) =>
      match s.readAndPick position key select with
      | (.ok object, s) => s.walkFrom (position + 1) (.object object) rest
      | (.error fault, s) => (.error fault, s)
    | none =>
      match spot.collection? text, rest with
      | some key, segment :: rest =>
        match s.readAndPick (position + 1) key segment.select with
        | (.ok object, s) => s.walkFrom (position + 2) (.object object) rest
        | (.error fault, s) => (.error fault, s)
      | _, _ => (.error (.senseless text), s)

/-- The connection as a spot. -/
def root (s : Session) : Except WalkFault Spot :=
  s.connection.elim (.error (.senseless "no connection")) fun c => .ok (.connection c)

/-- Walks a path. -/
def walk (s : Session) (path : List Segment) : Walked Spot :=
  match path with
  | .name text :: rest =>
    match text.toList with
    | '@' :: name =>
      match s.held? (String.ofList name) with
      | some object => s.walkFrom 1 (.object object) rest
      | none => (.error (.senseless text), s)
    | _ =>
      match s.root with
      | .ok spot => s.walkFrom 0 spot path
      | .error fault => (.error fault, s)
  | _ =>
    match s.root with
    | .ok spot => s.walkFrom 0 spot path
    | .error fault => (.error fault, s)

/-- Walks a path that ends in an object. -/
def walkToObject (s : Session) (path : List Segment) : Walked MetadataObject :=
  match s.walk path with
  | (.ok (.object object), s) => (.ok object, s)
  | (.ok (.connection _), s) => (.error (.senseless "connection"), s)
  | (.error fault, s) => (.error fault, s)

/-- Walks a path that ends in the name of a collection, which is not read. -/
def walkToCollection (s : Session) (path : List Segment) : Walked TreeKey :=
  match path.getLast? with
  | some (.name text) =>
    match s.walk path.dropLast with
    | (.ok spot, s) =>
      (match spot.collection? text with
        | some key => .ok key
        | none => .error (.senseless text), s)
    | (.error fault, s) => (.error fault, s)
  | _ => (.error (.senseless "path"), s)

end Session

end CubeClient
