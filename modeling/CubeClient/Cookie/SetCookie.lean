import CubeClient.Text.Split
import CubeClient.Time.Reading

/-!
# Cookies in headers

A header sets one cookie: a name and a value, and behind semicolons attributes, of which the path
and the expiry count. The last one of each holds. A cookie without a name, and one with an expiry
that cannot be read, is dropped.
-/

namespace CubeClient

open CubeClient.Text

/-- What is kept of a cookie besides its name. -/
structure Cookie where
  value : String
  path : Option String := none
  expires : Option Instant := none
  deriving DecidableEq, Repr

namespace Cookie

/-- Whether a cookie has not expired at an instant. -/
def isLive (cookie : Cookie) (now : Instant) : Bool :=
  cookie.expires.all now.isBefore

/-- Whether a cookie is for requests to a path. -/
def matchesPath (cookie : Cookie) (requestPath : String) : Bool :=
  cookie.path.all fun path => path == "/" || path.toList.isPrefixOf requestPath.toList

end Cookie

namespace SetCookie

/-- A text cut at the first equals sign. -/
def splitPair (text : List Char) : Option (List Char × List Char) :=
  match text.dropWhile (· != '=') with
  | [] => none
  | _ :: value => some (text.takeWhile (· != '='), value)

/-- Reads an attribute: its key in small letters, and its value. -/
def readAttribute (text : List Char) : String × String :=
  let (key, value) := (splitPair text).getD (text, [])
  (String.ofList ((trimList key).map lowerChar), String.ofList (trimList value))

/-- Gives a cookie an attribute; `none` if it spoils the cookie. -/
def addAttribute (cookie : Cookie) (text : List Char) : Option Cookie :=
  match readAttribute text with
  | ("path", value) => some { cookie with path := some value }
  | ("expires", value) =>
    (HeaderDate.read value).map fun expires => { cookie with expires := some expires }
  | _ => some cookie

/-- Reads a cookie and its name. -/
def read? (header : String) : Option (String × Cookie) :=
  match splitAt ';' header.toList with
  | [] => none
  | first :: attributes =>
    match splitPair first with
    | none => none
    | some (name, value) =>
      let name := trimList name
      if name.isEmpty then none
      else
        (attributes.foldlM addAttribute { value := String.ofList (trimList value) }).map
          fun cookie => (String.ofList name, cookie)

end SetCookie

end CubeClient
