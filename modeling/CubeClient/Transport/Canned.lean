import CubeClient.Envelope.Request
import CubeClient.Envelope.Response

/-!
# Canned answers

A canned server answers from a list of fixtures. A fixture matches a request of its action and, when
it names one, of its request type, if each of its restrictions is the request's first value for that
key. Of the matching fixtures the one with the most restrictions answers, and of equally many the
last. A request that nothing matches is answered with a fault, so that a missing fixture shows.
-/

namespace CubeClient

open CubeClient.Text CubeClient.Xml

/-- A request as the receiving side reads it. -/
structure RecordedRequest where
  action : Action
  requestType : Option String
  restrictions : Pairs
  statement : Option String
  deriving DecidableEq, Repr

namespace RecordedRequest

/-- Reads what the element of an action holds. -/
def ofMethod (action : Action) (method : Element) : RecordedRequest :=
  { action
    requestType := (method.child? none "RequestType").map (·.text)
    restrictions :=
      match (method.child? none "Restrictions").bind (·.child? none "RestrictionList") with
      | some list => ⟨list.elements.map fun e => (e.name, e.text)⟩
      | none => .empty
    statement := ((method.child? none "Command").bind (·.child? none "Statement")).map (·.text) }

/-- Reads a request body; from one that is no envelope with the element of the action nothing but
the action is known. -/
def ofBody (action : Action) (body : Bytes) : RecordedRequest :=
  match Element.parse body with
  | .error _ => ⟨action, none, .empty, none⟩
  | .ok envelope =>
    match (envelope.child? none "Body").bind (·.child? none action.element) with
    | none => ⟨action, none, .empty, none⟩
    | some method => ofMethod action method

/-- What the request asks for, or else its action. -/
def subject (request : RecordedRequest) : String :=
  request.requestType.getD request.action.element

end RecordedRequest

/-- An answer and the requests it is for. -/
structure Fixture where
  action : Action
  requestType : Option String
  restrictions : Pairs
  body : Bytes
  deriving DecidableEq, Repr

namespace Fixture

/-- The answer to Discover requests of a type with some restrictions. -/
def discover (request : RequestType) (restrictions : Pairs) (body : Bytes) : Fixture :=
  ⟨.discover, some request.name, restrictions, body⟩

/-- The answer to every Execute request. -/
def execute (body : Bytes) : Fixture :=
  ⟨.execute, none, .empty, body⟩

/-- Whether a fixture is for a request. -/
def isFor (fixture : Fixture) (request : RecordedRequest) : Bool :=
  fixture.action == request.action &&
    (fixture.requestType.isNone || fixture.requestType == request.requestType) &&
    fixture.restrictions.entries.all fun (key, value) =>
      request.restrictions.get? key == some value

/-- The later of two fixtures, unless the earlier one has more restrictions. -/
def moreSpecific (best : Option Fixture) (fixture : Fixture) : Option Fixture :=
  match best with
  | none => some fixture
  | some b => if fixture.restrictions.size < b.restrictions.size then some b else some fixture

/-- The fixture that answers a request. -/
def best? (fixtures : List Fixture) (request : RecordedRequest) : Option Fixture :=
  (fixtures.filter (·.isFor request)).foldl moreSpecific none

end Fixture

/-- A server that answers from fixtures and keeps the requests it has received. -/
structure CannedServer where
  fixtures : List Fixture
  /-- How many requests have been received. -/
  requestCount : Nat
  received : List RecordedRequest
  deriving Repr

namespace CannedServer

/-- A server that has received nothing. -/
def ofFixtures (fixtures : List Fixture) : CannedServer :=
  ⟨fixtures, 0, []⟩

/-- The answer to a request that nothing matches. -/
def noAnswer (request : RecordedRequest) : Bytes :=
  Utf8.encode (Envelope.fault "SOAP-ENV:Client" ("no canned response for " ++ request.subject))

/-- The answer to a request. -/
def answer (fixtures : List Fixture) (request : RecordedRequest) : Bytes :=
  match Fixture.best? fixtures request with
  | some fixture => fixture.body
  | none => noAnswer request

/-- Receives a request body and answers it. -/
def exchange (server : CannedServer) (action : Action) (body : Bytes) : Bytes × CannedServer :=
  let request := RecordedRequest.ofBody action body
  (answer server.fixtures request,
    { server with
      requestCount := server.requestCount + 1
      received := server.received ++ [request] })

/-- How many of them asked for a request type. -/
def requestsFor (server : CannedServer) (request : RequestType) : Nat :=
  (server.received.filter (·.requestType == some request.name)).length

/-- The encoding of request and response bodies. -/
def encoding : String := "UTF-8"

end CannedServer

end CubeClient
