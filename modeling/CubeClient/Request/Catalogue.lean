import CubeClient.Error
import CubeClient.Request.Pairs

/-!
# The catalogue of requests

A server answers two actions, Discover and Execute. What Discover may ask for is a closed list of
request types, and for each of them the catalogue says under which name it travels and which
restrictions it requires and accepts. A request is checked against the catalogue before anything is
sent.
-/

namespace CubeClient

/-- What a request makes the server do. -/
inductive Action where
  | discover
  | execute
  deriving DecidableEq, Repr

namespace Action

/-- The element that carries the request. -/
def element : Action → String
  | .discover => "Discover"
  | .execute => "Execute"

/-- The value of the header that names the action. -/
def header (action : Action) : String :=
  "\"urn:schemas-microsoft-com:xml-analysis:" ++ action.element ++ "\""

end Action

/-- What Discover may ask for. -/
inductive RequestType where
  | dataSources
  | literals
  | catalogs
  | schemata
  | cubes
  | dimensions
  | hierarchies
  | levels
  | members
  | measures
  | measureGroups
  | measureGroupDimensions
  | functions
  deriving DecidableEq, Repr

/-- The catalogue's entry for a request type. -/
structure RequestShape where
  name : String
  /-- The name of the type in diagnostic output. -/
  label : String
  action : Action
  rowElement : String
  required : List String
  allowed : List String
  deriving DecidableEq, Repr

namespace RequestType

/-- Every request type, in the order of the catalogue. -/
def all : List RequestType :=
  [.dataSources, .literals, .catalogs, .schemata, .cubes, .dimensions, .hierarchies, .levels,
    .members, .measures, .measureGroups, .measureGroupDimensions, .functions]

/-- The catalogue. -/
def shape : RequestType → RequestShape
  | .dataSources =>
    { name := "DISCOVER_DATASOURCES", label := "DiscoverDatasources"
      action := .discover, rowElement := "row", required := []
      allowed := ["DataSourceName", "URL", "ProviderName", "ProviderType", "AuthenticationMode"] }
  | .literals =>
    { name := "DISCOVER_LITERALS", label := "DiscoverLiterals"
      action := .discover, rowElement := "row", required := []
      allowed := ["LiteralName"] }
  | .catalogs =>
    { name := "DBSCHEMA_CATALOGS", label := "DbschemaCatalogs"
      action := .discover, rowElement := "row", required := []
      allowed := ["CATALOG_NAME"] }
  | .schemata =>
    { name := "DBSCHEMA_SCHEMATA", label := "DbschemaSchemata"
      action := .discover, rowElement := "row", required := ["CATALOG_NAME"]
      allowed := ["CATALOG_NAME", "SCHEMA_NAME", "SCHEMA_OWNER"] }
  | .cubes =>
    { name := "MDSCHEMA_CUBES", label := "MdschemaCubes"
      action := .discover, rowElement := "row", required := ["CATALOG_NAME"]
      allowed := ["CATALOG_NAME", "SCHEMA_NAME", "CUBE_NAME", "CUBE_SOURCE"] }
  | .dimensions =>
    { name := "MDSCHEMA_DIMENSIONS", label := "MdschemaDimensions"
      action := .discover, rowElement := "row", required := ["CATALOG_NAME"]
      allowed :=
        ["CATALOG_NAME", "SCHEMA_NAME", "CUBE_NAME", "DIMENSION_NAME", "DIMENSION_UNIQUE_NAME",
          "CUBE_SOURCE", "DIMENSION_VISIBILITY"] }
  | .hierarchies =>
    { name := "MDSCHEMA_HIERARCHIES", label := "MdschemaHierarchies"
      action := .discover, rowElement := "row", required := ["CATALOG_NAME"]
      allowed :=
        ["CATALOG_NAME", "SCHEMA_NAME", "CUBE_NAME", "DIMENSION_UNIQUE_NAME", "HIERARCHY_NAME",
          "HIERARCHY_UNIQUE_NAME", "HIERARCHY_ORIGIN", "CUBE_SOURCE", "HIERARCHY_VISIBILITY"] }
  | .levels =>
    { name := "MDSCHEMA_LEVELS", label := "MdschemaLevels"
      action := .discover, rowElement := "row", required := ["CATALOG_NAME", "CUBE_NAME"]
      allowed :=
        ["CATALOG_NAME", "SCHEMA_NAME", "CUBE_NAME", "DIMENSION_UNIQUE_NAME",
          "HIERARCHY_UNIQUE_NAME", "LEVEL_NAME", "LEVEL_UNIQUE_NAME", "LEVEL_ORIGIN", "CUBE_SOURCE",
          "LEVEL_VISIBILITY"] }
  | .members =>
    { name := "MDSCHEMA_MEMBERS", label := "MdschemaMembers"
      action := .discover, rowElement := "row", required := ["CATALOG_NAME", "CUBE_NAME"]
      allowed :=
        ["CATALOG_NAME", "SCHEMA_NAME", "CUBE_NAME", "DIMENSION_UNIQUE_NAME",
          "HIERARCHY_UNIQUE_NAME", "LEVEL_UNIQUE_NAME", "LEVEL_NUMBER", "MEMBER_NAME",
          "MEMBER_UNIQUE_NAME", "MEMBER_CAPTION", "MEMBER_TYPE", "TREE_OP", "CUBE_SOURCE"] }
  | .measures =>
    { name := "MDSCHEMA_MEASURES", label := "MdschemaMeasures"
      action := .discover, rowElement := "row", required := ["CATALOG_NAME", "CUBE_NAME"]
      allowed :=
        ["CATALOG_NAME", "SCHEMA_NAME", "CUBE_NAME", "MEASURE_NAME", "MEASURE_UNIQUE_NAME",
          "MEASUREGROUP_NAME", "CUBE_SOURCE", "MEASURE_VISIBILITY"] }
  | .measureGroups =>
    { name := "MDSCHEMA_MEASUREGROUPS", label := "MdschemaMeasuregroups"
      action := .discover, rowElement := "row", required := ["CATALOG_NAME", "CUBE_NAME"]
      allowed := ["CATALOG_NAME", "SCHEMA_NAME", "CUBE_NAME", "MEASUREGROUP_NAME"] }
  | .measureGroupDimensions =>
    { name := "MDSCHEMA_MEASUREGROUP_DIMENSIONS", label := "MdschemaMeasuregroupDimensions"
      action := .discover, rowElement := "row"
      required := ["CATALOG_NAME", "CUBE_NAME", "MEASUREGROUP_NAME"]
      allowed :=
        ["CATALOG_NAME", "SCHEMA_NAME", "CUBE_NAME", "MEASUREGROUP_NAME", "DIMENSION_UNIQUE_NAME",
          "DIMENSION_VISIBILITY"] }
  | .functions =>
    { name := "MDSCHEMA_FUNCTIONS", label := "MdschemaFunctions"
      action := .discover, rowElement := "row", required := []
      allowed := ["LIBRARY_NAME", "INTERFACE_NAME", "FUNCTION_NAME", "ORIGIN"] }

/-- The name under which a request type travels. -/
def name (request : RequestType) : String :=
  request.shape.name

/-- The request type of a name. -/
def ofName (name : String) : Except ClientError RequestType :=
  match all.find? (·.name == name) with
  | some request => .ok request
  | none => .error (.unknownRequestType name)

/-- Checks restrictions against the catalogue. The first key that is not allowed is reported, in the
caller's order; if all are allowed, the first required key that is missing, in the catalogue's. -/
def validate (request : RequestType) (restrictions : Restrictions) : Except ClientError Unit :=
  match restrictions.entries.find? fun (key, _) => !request.shape.allowed.contains key with
  | some (key, _) => .error (.unsupportedRestriction request.name key)
  | none =>
    match request.shape.required.find? fun key => (restrictions.get? key).isNone with
    | some key => .error (.missingRestriction request.name key)
    | none => .ok ()

end RequestType

end CubeClient
