import CubeClient.Field
import CubeClient.Metadata.Object

/-!
# Objects from rows

How a row of each rowset becomes an object. Names have to be there; captions fall back on names; a
number that is there has to be one. Where a row and the context of its collection both name an
object above, the context holds: the server was asked about that object.
-/

namespace CubeClient

open CubeClient.Xml

namespace Catalog

/-- Reads a row of `DBSCHEMA_CATALOGS`. -/
def ofRow (row : Element) : Except ClientError Catalog := do
  let name ← Field.string row "CATALOG_NAME"
  return { name, description := Field.nonempty? row "DESCRIPTION" }

end Catalog

namespace Schema

/-- Reads a row of `DBSCHEMA_SCHEMATA`. -/
def ofRow (row : Element) : Except ClientError Schema := do
  return { name := ← Field.string row "SCHEMA_NAME" }

/-- The context of a schema's collections. -/
def scope (context : Context) (row : Element) (schema : Schema) : Except ClientError Context := do
  let catalog ← match context.catalog with
    | some catalog => pure catalog
    | none => Field.string row "CATALOG_NAME"
  return { context with catalog := some catalog, schema := some schema.name }

end Schema

namespace Cube

/-- Reads a row of `MDSCHEMA_CUBES`. -/
def ofRow (row : Element) : Except ClientError Cube := do
  let name ← Field.string row "CUBE_NAME"
  return {
    name
    caption := (Field.nonempty? row "CUBE_CAPTION").getD name
    description := Field.nonempty? row "DESCRIPTION" }

/-- The context of a cube's collections. -/
def scope (context : Context) (row : Element) (cube : Cube) : Context :=
  { context with
    cube := some cube.name
    schema := context.schema.or (Field.nonempty? row "SCHEMA_NAME") }

end Cube

namespace Dimension

/-- Reads the type of a dimension. -/
def readType (row : Element) : Except ClientError DimensionType := do
  match ← Field.int32? row "DIMENSION_TYPE" with
  | none => return .unknown
  | some code =>
    match DimensionType.ofCode? code with
    | some type => return type
    | none => throw (.invalidField "DIMENSION_TYPE" (toString code) .unknownDimensionType)

/-- Reads a row of `MDSCHEMA_DIMENSIONS`. -/
def ofRow (row : Element) : Except ClientError Dimension := do
  let name ← Field.string row "DIMENSION_NAME"
  let uniqueName ← Field.string row "DIMENSION_UNIQUE_NAME"
  let type ← readType row
  let ordinal ← Field.int32? row "DIMENSION_ORDINAL"
  return {
    name, uniqueName, type, ordinal
    caption := (Field.nonempty? row "DIMENSION_CAPTION").getD name
    description := Field.nonempty? row "DESCRIPTION"
    defaultHierarchy := Field.nonempty? row "DEFAULT_HIERARCHY" }

/-- The context of a dimension's hierarchies. A dimension that is listed outside all cubes names one
in its row. -/
def scope (context : Context) (row : Element) (dimension : Dimension) : Context :=
  { context with
    dimension := some dimension.uniqueName
    cube := context.cube.or (Field.nonempty? row "CUBE_NAME") }

end Dimension

namespace Hierarchy

/-- Reads a row of `MDSCHEMA_HIERARCHIES`. -/
def ofRow (row : Element) : Except ClientError Hierarchy := do
  let name ← Field.string row "HIERARCHY_NAME"
  let uniqueName ← Field.string row "HIERARCHY_UNIQUE_NAME"
  return {
    name, uniqueName
    caption := (Field.nonempty? row "HIERARCHY_CAPTION").getD name
    description := Field.nonempty? row "DESCRIPTION"
    allMember := Field.nonempty? row "ALL_MEMBER"
    defaultMember := Field.nonempty? row "DEFAULT_MEMBER" }

/-- The context of a hierarchy's levels. -/
def scope (context : Context) (row : Element) (hierarchy : Hierarchy) : Context :=
  { context with
    hierarchy := some hierarchy.uniqueName
    dimension := context.dimension.or (Field.nonempty? row "DIMENSION_UNIQUE_NAME")
    cube := context.cube.or (Field.nonempty? row "CUBE_NAME") }

end Hierarchy

namespace Level

/-- Reads a row of `MDSCHEMA_LEVELS`. -/
def ofRow (row : Element) : Except ClientError Level := do
  let name ← Field.string row "LEVEL_NAME"
  let uniqueName ← Field.string row "LEVEL_UNIQUE_NAME"
  let depth ← Field.signed 32 row "LEVEL_NUMBER"
  let type ← Field.int32? row "LEVEL_TYPE"
  let cardinality ← Field.int32? row "LEVEL_CARDINALITY"
  return {
    name, uniqueName, depth, cardinality
    caption := (Field.nonempty? row "LEVEL_CAPTION").getD name
    type := type.getD 0 }

/-- The context of a level's members. -/
def scope (context : Context) (row : Element) (level : Level) : Context :=
  { context with
    level := some level.uniqueName
    hierarchy := context.hierarchy.or (Field.nonempty? row "HIERARCHY_UNIQUE_NAME")
    dimension := context.dimension.or (Field.nonempty? row "DIMENSION_UNIQUE_NAME") }

end Level

namespace Measure

/-- Reads a row of `MDSCHEMA_MEASURES`. A server that does not tell which measures are visible lists
visible ones only. -/
def ofRow (context : Context) (row : Element) : Except ClientError Measure := do
  let name ← Field.string row "MEASURE_NAME"
  let aggregator ← Field.int32? row "MEASURE_AGGREGATOR"
  let uniqueName ← Field.string row "MEASURE_UNIQUE_NAME"
  let dataType ← Field.int32? row "DATA_TYPE"
  return {
    name, uniqueName, dataType
    caption := (Field.nonempty? row "MEASURE_CAPTION").getD name
    description := Field.nonempty? row "DESCRIPTION"
    aggregator := aggregator.elim .unknown Aggregator.ofCode
    visible := (Field.string? row "MEASURE_IS_VISIBLE").all (· == "true")
    measureGroup := (Field.nonempty? row "MEASUREGROUP_NAME").or context.measureGroup }

end Measure

namespace MeasureGroup

/-- Reads a row of `MDSCHEMA_MEASUREGROUPS`. -/
def ofRow (row : Element) : Except ClientError MeasureGroup := do
  let name ← Field.string row "MEASUREGROUP_NAME"
  return {
    name
    caption := (Field.nonempty? row "MEASUREGROUP_CAPTION").getD name
    description := Field.nonempty? row "DESCRIPTION" }

end MeasureGroup

namespace DataSource

/-- Reads a row of `DISCOVER_DATASOURCES`. -/
def ofRow (row : Element) : Except ClientError DataSource := do
  return {
    name := ← Field.string row "DataSourceName"
    info := Field.nonempty? row "DataSourceInfo"
    url := Field.nonempty? row "URL"
    provider := Field.nonempty? row "ProviderName"
    description := Field.nonempty? row "DataSourceDescription" }

end DataSource

namespace Literal

/-- Reads a row of `DISCOVER_LITERALS`. -/
def ofRow (row : Element) : Except ClientError Literal := do
  let name ← Field.string row "LiteralName"
  let maxLength ← Field.int32? row "LiteralMaxLength"
  return {
    name, maxLength
    value := Field.nonempty? row "LiteralValue"
    invalidChars := Field.nonempty? row "LiteralInvalidChars"
    invalidStartingChars := Field.nonempty? row "LiteralInvalidStartingChars" }

end Literal

end CubeClient
