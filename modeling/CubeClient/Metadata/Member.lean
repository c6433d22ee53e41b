import CubeClient.Metadata.Row

/-!
# Members and functions

Members are not kept: a level can have millions of them. Every call asks the server again. A member
names its parent by unique name, and the parent is looked up in the cube when somebody wants it.
Functions are not kept either, and as overloads share a name they are a plain list.
-/

namespace CubeClient

open CubeClient.Xml

/-- A member of a level. -/
structure Member where
  name : String
  uniqueName : String
  caption : String
  level : Option String
  hierarchy : Option String
  dimension : Option String
  depth : Int
  ordinal : Option Int
  type : MemberType
  parent : Option String
  children : Option Int
  deriving DecidableEq, Repr

/-- A function of the query language. -/
structure QueryFunction where
  name : String
  description : Option String
  parameters : Option String
  returnType : Option Int
  origin : Option Int
  interface : Option String
  deriving DecidableEq, Repr

namespace Member

/-- Reads a row of `MDSCHEMA_MEMBERS`. What the row leaves out is taken from the context. -/
def ofRow (context : Context) (row : Element) : Except ClientError Member := do
  let name ← Field.string row "MEMBER_NAME"
  let uniqueName ← Field.string row "MEMBER_UNIQUE_NAME"
  let depth ← Field.signed 32 row "LEVEL_NUMBER"
  let ordinal ← Field.int32? row "MEMBER_ORDINAL"
  let type ← Field.int32? row "MEMBER_TYPE"
  let children ← Field.int32? row "CHILDREN_CARDINALITY"
  return {
    name, uniqueName, depth, ordinal, children
    caption := (Field.nonempty? row "MEMBER_CAPTION").getD name
    level := (Field.nonempty? row "LEVEL_UNIQUE_NAME").or context.level
    hierarchy := (Field.nonempty? row "HIERARCHY_UNIQUE_NAME").or context.hierarchy
    dimension := (Field.nonempty? row "DIMENSION_UNIQUE_NAME").or context.dimension
    type := type.elim .unknown MemberType.ofCode
    parent := Field.nonempty? row "PARENT_UNIQUE_NAME" }

end Member

namespace QueryFunction

/-- Reads a row of `MDSCHEMA_FUNCTIONS`. -/
def ofRow (row : Element) : Except ClientError QueryFunction := do
  let name ← Field.string row "FUNCTION_NAME"
  let returnType ← Field.int32? row "RETURN_TYPE"
  let origin ← Field.int32? row "ORIGIN"
  return {
    name, returnType, origin
    description := Field.nonempty? row "DESCRIPTION"
    parameters := Field.nonempty? row "PARAMETER_LIST"
    interface := Field.nonempty? row "INTERFACE_NAME" }

end QueryFunction

/-- Asks for the functions of a server. -/
def Client.functions (client : Client) : Call (List QueryFunction) :=
  (client.discover .functions none .empty).andThen (·.mapM QueryFunction.ofRow)

namespace Scope

/-- Asks for members of the cube that a scope is in. -/
def discoverMembers (scope : Scope) (key value : String) : Call (List Element) :=
  scope.client.discover .members scope.context.catalog (scope.context.restrictions.push key value)

/-- Looks a member up by its unique name. -/
def lookupMember (scope : Scope) (uniqueName : String) : Call (Option Member) :=
  (scope.discoverMembers "MEMBER_UNIQUE_NAME" uniqueName).andThen fun rows =>
    match rows.head? with
    | none => .ok none
    | some row => (Member.ofRow scope.context row).map some

/-- Asks for the members of a level. -/
def levelMembers (scope : Scope) (level : Level) : Call (List Member) :=
  (scope.discoverMembers "LEVEL_UNIQUE_NAME" level.uniqueName).andThen
    (·.mapM (Member.ofRow scope.context))

/-- Looks up the default member of a hierarchy; no call if it has none. -/
def defaultMember? (scope : Scope) (hierarchy : Hierarchy) : Option (Call (Option Member)) :=
  hierarchy.defaultMember.map scope.lookupMember

/-- Looks up the parent of a member; no call if it has none. -/
def parentMember? (scope : Scope) (member : Member) : Option (Call (Option Member)) :=
  member.parent.map scope.lookupMember

end Scope

end CubeClient
