import CubeClient.Request.Message
import CubeClient.Transport.Canned

/-!
# A transport that fails on command

In front of a canned server a script says which messages, counted from the first, are lost and how.
A lost message never reaches the server. Of two entries for one message the later holds.
-/

namespace CubeClient

/-- How a message is lost. -/
inductive Mishap where
  | timeout
  | busy
  | crash
  deriving DecidableEq, Repr

/-- The error that a lost message comes back as. -/
def Mishap.error : Mishap → ClientError
  | .timeout => .timeout 30
  | .busy => .httpStatus 503 "busy"
  | .crash => .submissionLost none

/-- A canned server behind a transport with a script. -/
structure ScriptedServer where
  canned : CannedServer
  mishaps : List (Nat × Mishap)
  /-- How many messages have been sent, lost ones among them. -/
  sent : Nat
  deriving Repr

namespace ScriptedServer

/-- A server that nothing has been sent to. -/
def ofFixtures (fixtures : List Fixture) (mishaps : List (Nat × Mishap)) : ScriptedServer :=
  ⟨.ofFixtures fixtures, mishaps, 0⟩

/-- What happens to a message. -/
def mishap? (server : ScriptedServer) (index : Nat) : Option Mishap :=
  (server.mishaps.reverse.find? (·.1 == index)).map (·.2)

/-- Sends a message. -/
def respond (server : ScriptedServer) (message : Message) : Reply × ScriptedServer :=
  match server.mishap? server.sent with
  | some mishap => (.error mishap.error, { server with sent := server.sent + 1 })
  | none =>
    let (body, canned) := server.canned.exchange message.action message.body
    (.ok body, { server with canned, sent := server.sent + 1 })

/-- Makes a call. -/
def perform {α : Type} (server : ScriptedServer) (call : Call α) :
    Except ClientError α × ScriptedServer :=
  match call with
  | .refused error => (.error error, server)
  | .message message decode =>
    let (reply, server) := server.respond message
    (decode reply, server)

end ScriptedServer

end CubeClient
