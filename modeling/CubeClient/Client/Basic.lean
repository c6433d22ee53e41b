import CubeClient.Envelope.Request
import CubeClient.Envelope.Response
import CubeClient.Request.Message
import CubeClient.Transport.Server

/-!
# The client

A client encodes requests for one server and decodes what comes back. It holds no metadata. Discover
answers rows, Execute the root of a dataset, and whatever the server reports in their place is an
error of the call.
-/

namespace CubeClient

open CubeClient.Xml

/-- Encodes requests of a session with a server. -/
structure Client where
  server : ServerInfo
  session : SessionSettings
  deriving DecidableEq, Repr

namespace Client

/-- Reads the payload of a reply. -/
def readPayload (reply : Reply) : Except ClientError Element :=
  reply >>= Envelope.parseResponse

/-- The rows of a payload, in order. -/
def rowsOf (request : RequestType) (root : Element) : List Element :=
  root.elements.filter (·.name == request.shape.rowElement)

/-- The properties of a Discover request. A catalog given for the request wins over the
session's. -/
def discoverProperties (client : Client) (catalog : Option String) : Properties :=
  Properties.discover (catalog.or client.session.catalog) client.session.dataSourceInfo

/-- Asks for rows. Restrictions that the catalogue of requests does not allow are never sent. -/
def discover (client : Client) (request : RequestType) (catalog : Option String)
    (restrictions : Restrictions) : Call (List Element) :=
  match request.validate restrictions with
  | .error error => .refused error
  | .ok () =>
    .message
      ⟨.discover, Envelope.discoverRequest request restrictions (client.discoverProperties catalog)⟩
      fun reply => (readPayload reply).map (rowsOf request)

/-- Runs a statement and answers the root of its dataset. -/
def execute (client : Client) (statement : String) : Call Element :=
  .message
    ⟨.execute, Envelope.executeRequest statement
      (Properties.execute client.session.catalog client.session.dataSourceInfo)⟩
    readPayload

/-- A client in diagnostic output. -/
def debugText (client : Client) : String :=
  "XmlaClient \x7b server: " ++ client.server.debugText ++ ", session: " ++
    client.session.debugText ++ ", .. \x7d"

end Client

end CubeClient
