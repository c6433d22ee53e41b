import CubeClient.Deferred.Schedule
import CubeClient.Metadata.Collection
import CubeClient.Metadata.Member
import CubeClient.Transport.Scripted

/-!
# Sessions

A session has at most one connection at a time, all of them to one server. The collections of a
connection live as long as somebody can get at them: through the connection, or through an object
that is held by a name of its own. A held measure group does not keep its cube, so the dimensions of
the cube may be gone when the group wants them.
-/

namespace CubeClient

open CubeClient.Deferred

/-- A connection, numbered among those of its session. -/
structure Connection where
  number : Nat
  client : Client
  deriving DecidableEq, Repr

namespace Connection

/-- The scope of the root collections. -/
def scope (connection : Connection) : Scope :=
  { client := connection.client, place := ⟨connection.number, []⟩, context := {} }

end Connection

/-- A session with a server. -/
structure Session where
  server : ScriptedServer
  collections : Config TreeKey MetadataObject
  connection : Option Connection
  /-- How many connections have been opened. -/
  opened : Nat
  held : List (String × MetadataObject)

namespace Session

/-- A session without a connection. -/
def ofServer (server : ScriptedServer) : Session :=
  { server, collections := .initial, connection := none, opened := 0, held := [] }

/-- Opens a connection in place of the one before. -/
def openConnection (s : Session) (env : Environment) (settings : Settings) :
    Except ClientError Session :=
  match ServerInfo.ofSettings env settings.server with
  | .error cause => .error (.settings cause)
  | .ok server =>
    .ok { s with
      connection := some ⟨s.opened, ⟨server, settings.session⟩⟩
      opened := s.opened + 1 }

/-- Closes the connection. -/
def close (s : Session) : Session :=
  { s with connection := none }

/-- Keeps an object under a name. -/
def hold (s : Session) (name : String) (object : MetadataObject) : Session :=
  { s with held := (name, object) :: s.held.filter (·.1 != name) }

/-- The object held under a name. -/
def held? (s : Session) (name : String) : Option MetadataObject :=
  (s.held.find? (·.1 == name)).map (·.2)

/-- Lets go of an object; whether there was one. -/
def release (s : Session) (name : String) : Bool × Session :=
  ((s.held? name).isSome, { s with held := s.held.filter (·.1 != name) })

/-- Whether somebody can get at the objects of a place. -/
def reaches (s : Session) (place : Place) : Bool :=
  s.connection.any (·.number == place.connection) ||
    s.held.any fun (_, object) => object.scope.place.isAbove place

/-- The collections, with those owned that somebody can get at. -/
def current (s : Session) : Config TreeKey MetadataObject :=
  { s.collections with owned := fun key => s.reaches key.collection.scope.place }

/-- The error of a read that waits for itself. -/
def neverEnds (key : TreeKey) : ClientError :=
  .reentrantPopulation (TreeKey.family.label key)

/-- Reads a collection. -/
def read (s : Session) (key : TreeKey) : ReadResult MetadataObject × Session :=
  let (result, collections, server) :=
    s.current.readOnce TreeKey.family ScriptedServer.respond key s.server
  (result.getD (.error (neverEnds key)), { s with collections, server })

/-- Reads a collection several times at once. -/
def readConcurrently (s : Session) (key : TreeKey) (count : Nat) :
    List (ReadResult MetadataObject) × Session :=
  let (results, collections, server) :=
    s.current.readConcurrently TreeKey.family ScriptedServer.respond key count s.server
  (results, { s with collections, server })

/-- Starts a read and gives it up when it would have to wait; whether it had to. -/
def readBriefly (s : Session) (key : TreeKey) : Bool × Session :=
  let (pending, collections, server) :=
    s.current.readBriefly TreeKey.family ScriptedServer.respond key s.server
  (pending, { s with collections, server })

/-- Whether a collection is filled. -/
def isPopulated (s : Session) (key : TreeKey) : Bool :=
  s.collections.isPopulated key

/-- Makes a call. -/
def perform {α : Type} (s : Session) (call : Call α) : Except ClientError α × Session :=
  let (result, server) := s.server.perform call
  (result, { s with server })

/-- Makes a call if there is one to make. -/
def performOptional {α : Type} (s : Session) (call : Option (Call (Option α))) :
    Except ClientError (Option α) × Session :=
  match call with
  | some call => s.perform call
  | none => (.ok none, s)

end Session

end CubeClient
