import CubeClient.Cookie.Jar
import CubeClient.Request.Message
import CubeClient.Text.Base64
import CubeClient.Text.Cut
import CubeClient.Transport.Server

/-!
# HTTP sessions

Envelopes are posted to the server. A session keeps the cookies of every response that arrives, also
of one that turns out to be an error or whose body breaks off, and sends them back; an exchange that
brings no response changes nothing. Faults travel on status 500, so the body of such a response is
an answer like that of a successful one; of any other response a piece of the body goes into the
error.
-/

namespace CubeClient

open CubeClient.Text

/-- A request as it goes over the wire. -/
structure HttpRequest where
  url : Url
  contentType : String
  soapAction : String
  authorization : Option String
  cookie : Option String
  body : Bytes
  deriving DecidableEq, Repr

/-- A response; its body may break off. -/
structure HttpResponse where
  status : Nat
  setCookies : List String
  body : Bytes
  complete : Bool
  deriving DecidableEq, Repr

/-- What comes of a request. -/
inductive HttpOutcome where
  | unanswered
  | stalled
  | answered (response : HttpResponse)
  deriving DecidableEq, Repr

namespace HttpResponse

/-- Whether a header holds nothing but visible ASCII characters and blanks. Others are not read. -/
def isReadable (header : String) : Bool :=
  header.toList.all fun c => c == '\t' || (' ' ≤ c && c ≤ '~')

/-- Whether the body is an answer. -/
def isAnswer (response : HttpResponse) : Bool :=
  (200 ≤ response.status && response.status < 300) || response.status == 500

/-- How many bytes of a body an error keeps. -/
def excerptLimit : Nat := 512

/-- What an error keeps of a body. -/
def excerpt (body : Bytes) : String :=
  truncate (Utf8.decodeLossy body) excerptLimit

/-- The reply that a response is. -/
def reply (response : HttpResponse) : Reply :=
  if !response.complete then .error .exchange
  else if response.isAnswer then .ok response.body
  else .error (.httpStatus response.status (excerpt response.body))

end HttpResponse

/-- Exchanges with servers that share their cookies; without a jar cookies are not kept. -/
structure HttpSession where
  jar : Option CookieJar
  timeoutSeconds : Nat
  deriving DecidableEq, Repr

namespace HttpSession

/-- A session that has no cookies yet. -/
def ofSettings (settings : Settings) : HttpSession :=
  { jar := if settings.session.cookies then some .empty else none
    timeoutSeconds := settings.server.timeoutSeconds }

/-- The credentials of a server as a header. -/
def authorization? (server : ServerInfo) : Option String :=
  server.user.map fun user =>
    "Basic " ++ String.ofList (Base64.encode (Utf8.encode (user ++ ":" ++ server.password.getD "")))

/-- The request for a message at an instant. -/
def request (s : HttpSession) (server : ServerInfo) (now : Instant) (message : Message) :
    HttpRequest :=
  { url := server.url
    contentType := "text/xml; charset=UTF-8"
    soapAction := message.action.header
    authorization := authorization? server
    cookie := s.jar.bind (·.header? server.url now)
    body := message.body }

/-- Keeps the cookies of a response. -/
def keepCookies (s : HttpSession) (server : ServerInfo) (response : HttpResponse) : HttpSession :=
  { s with
    jar := s.jar.map (·.store server.url (response.setCookies.filter HttpResponse.isReadable)) }

/-- The reply that an outcome is, and the session after it. -/
def receive (s : HttpSession) (server : ServerInfo) (outcome : HttpOutcome) : Reply × HttpSession :=
  match outcome with
  | .unanswered => (.error .exchange, s)
  | .stalled => (.error (.timeout s.timeoutSeconds), s)
  | .answered response => (response.reply, s.keepCookies server response)

/-- Whether a text can stand in a header. -/
def isHeaderText (text : String) : Bool :=
  text.toList.all fun c => c == '\t' || (' ' ≤ c && c != '\x7f')

/-- Sends a message. A request whose headers cannot be written is not sent; a network answers all
others. -/
def exchange (s : HttpSession) (server : ServerInfo) (now : Instant) (message : Message)
    (network : HttpRequest → HttpOutcome) : Reply × HttpSession :=
  let request := s.request server now message
  if request.cookie.all isHeaderText then s.receive server (network request)
  else (.error .exchange, s)

end HttpSession

end CubeClient
