import CubeClient.Deferred.Rows
import CubeClient.Deferred.Schedule
import CubeClient.Client.Basic
import CubeClient.Field
import CubeClient.Metadata.Context
import CubeClient.Transport.Scripted

/-!
# Lists of one's own

Besides the tree a client can keep lists of its own, each filled from a query. What a row becomes is
told by a definition: which field makes the unique name, which row is left out, whether rows that
come again are, and which other lists have to be looked at before each row. Lists go by their
identifiers, and one that has been dropped cannot be looked at any more.
-/

namespace CubeClient

open CubeClient.Deferred CubeClient.Xml

/-- An object of a list of one's own. -/
structure ListItem where
  name : String
  uniqueName : String
  deriving DecidableEq, Repr

instance : Named ListItem where
  name := ListItem.name
  uniqueName := ListItem.uniqueName

/-- What a list is filled from, and how. -/
structure ListDefinition where
  id : String
  query : Query
  context : Context
  /-- The field of the unique name. -/
  uniqueField : Option String
  /-- The name whose rows are left out. -/
  skip : Option String
  /-- Whether rows of objects that are already there are left out. -/
  merge : Bool
  /-- The lists to look at before each row. -/
  observe : List String
  deriving DecidableEq, Repr

namespace ListDefinition

/-- Reads the name and the unique name of a row. -/
def readItem (d : ListDefinition) (row : Element) : Except ClientError ListItem := do
  let name ← Field.string row "NAME"
  return { name, uniqueName := (d.uniqueField.bind (Field.string? row)).getD name }

/-- What a row becomes once all other lists have been looked at. -/
def keepItem (d : ListDefinition) (row : Element) (list : NamedList ListItem) :
    Except ClientError (Option ListItem) :=
  (d.readItem row).map fun item =>
    if d.skip = some item.name || (d.merge && list.containsUnique item.uniqueName) then none
    else some item

/-- Looks at lists, and goes on if all of them can be read. -/
def lookAt (ids : List String)
    (next : Program String ListItem (Except ClientError (Option ListItem))) :
    Program String ListItem (Except ClientError (Option ListItem)) :=
  match ids with
  | [] => next
  | id :: rest =>
    .owned id fun
      | false => .done (.error (.ownerDropped id))
      | true =>
        .read id fun
          | .error error => .done (.error error)
          | .ok _ => lookAt rest next

/-- What the rows of a list become. -/
def handler (d : ListDefinition) : RowHandler String ListItem :=
  fun row list => lookAt d.observe (.done (d.keepItem row list))

/-- Fills a list. -/
def program (d : ListDefinition) (client : Client) : Population String ListItem :=
  populate d.query.label d.handler
    (client.discover d.query.request d.context.catalog d.query.restrictions)

end ListDefinition

/-- Lists of one's own over one client. -/
structure ListSession where
  client : Client
  definitions : List ListDefinition
  server : ScriptedServer
  lists : Config String ListItem
  /-- The lists that have not been dropped. -/
  held : List String

namespace ListSession

/-- All lists of some definitions, none of them filled. -/
def ofDefinitions (client : Client) (definitions : List ListDefinition) (server : ScriptedServer) :
    ListSession :=
  { client, definitions, server, lists := .initial, held := definitions.map (·.id) }

/-- The definition of a list. Of two with one identifier the later holds. -/
def definition? (s : ListSession) (id : String) : Option ListDefinition :=
  s.definitions.reverse.find? (·.id == id)

/-- The definition of a list that has not been dropped. -/
def held? (s : ListSession) (id : String) : Option ListDefinition :=
  if s.held.contains id then s.definition? id else none

/-- The lists as a family. -/
def family (s : ListSession) : Family String ListItem where
  label id := (s.definition? id).elim id (·.query.label)
  program id := (s.definition? id).elim (.done (.error (.ownerDropped id))) (·.program s.client)

/-- The lists, with those owned that have not been dropped. -/
def current (s : ListSession) : Config String ListItem :=
  { s.lists with owned := s.held.contains }

/-- Reads a list. -/
def read (s : ListSession) (id : String) : ReadResult ListItem × ListSession :=
  let (result, lists, server) := s.current.readOnce s.family ScriptedServer.respond id s.server
  (result.getD (.error (.reentrantPopulation (s.family.label id))), { s with lists, server })

/-- Reads a list several times at once. -/
def readConcurrently (s : ListSession) (id : String) (count : Nat) :
    List (ReadResult ListItem) × ListSession :=
  let (results, lists, server) :=
    s.current.readConcurrently s.family ScriptedServer.respond id count s.server
  (results, { s with lists, server })

/-- Starts a read and gives it up when it would have to wait; whether it had to. -/
def readBriefly (s : ListSession) (id : String) : Bool × ListSession :=
  let (pending, lists, server) :=
    s.current.readBriefly s.family ScriptedServer.respond id s.server
  (pending, { s with lists, server })

/-- Whether a list is filled. -/
def isPopulated (s : ListSession) (id : String) : Bool :=
  s.lists.isPopulated id

/-- Drops a list; whether it was there. -/
def drop (s : ListSession) (id : String) : Bool × ListSession :=
  (s.held.contains id, { s with held := s.held.filter (· != id) })

end ListSession

end CubeClient
