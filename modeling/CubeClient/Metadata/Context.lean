import CubeClient.Request.Catalogue
import CubeClient.Text.Quoted

/-!
# Positions in the metadata tree

A collection sits somewhere in the tree of catalogs, schemas, cubes and so on. Its context holds the
names of the objects above it, and from these come the restrictions its request is sent with. A
query is a request type with such restrictions; messages name a collection by its query.
-/

namespace CubeClient

/-- The names of the objects above a collection. Dimensions, hierarchies and levels go by their
unique names. -/
structure Context where
  catalog : Option String := none
  schema : Option String := none
  cube : Option String := none
  dimension : Option String := none
  hierarchy : Option String := none
  level : Option String := none
  measureGroup : Option String := none
  deriving DecidableEq, Repr

namespace Context

/-- The restrictions to what is above a collection, down to the cube. -/
def restrictions (context : Context) : Restrictions :=
  ((Pairs.empty.push? "CATALOG_NAME" context.catalog).push? "SCHEMA_NAME" context.schema).push?
    "CUBE_NAME" context.cube

end Context

/-- A Discover request that a collection is filled from. -/
structure Query where
  request : RequestType
  restrictions : Restrictions
  deriving DecidableEq, Repr

namespace Query

/-- The name in messages: the request type, and the values it is restricted to. -/
def label (query : Query) : String :=
  let values := query.restrictions.entries.map (·.2)
  query.request.name ++ if values.isEmpty then "" else "[" ++ "/".intercalate values ++ "]"

/-- A pair in diagnostic output. -/
def debugPair (pair : String × String) : String :=
  "(" ++ Text.quoted pair.1 ++ ", " ++ Text.quoted pair.2 ++ ")"

/-- A collection in diagnostic output. -/
def debugText (query : Query) (populated : Bool) : String :=
  "DeferredNamedList \x7b request: " ++ query.request.shape.label ++
    ", restrictions: Restrictions \x7b pairs: [" ++
    ", ".intercalate (query.restrictions.entries.map debugPair) ++ "] \x7d, populated: " ++
    toString populated ++ ", .. \x7d"

end Query

end CubeClient
