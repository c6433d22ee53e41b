import CubeClient.Url.Host

/-!
# URLs

A URL is a scheme, an authority (credentials, host and port), a path, a query and a fragment. The
schemes of the web itself are special: they always have a host, a backslash separates segments as a
slash does, and their default port is left out. Files have a host that may be empty. A URL of any
other scheme may have no authority, and then its path need not be made of segments.

Reading removes blanks at the ends and line breaks anywhere, resolves dot segments, and encodes what
may not stand where it does, so that `render` writes one form for every way to write a URL.
-/

namespace CubeClient

open CubeClient.Text CubeClient.Url

/-- How URLs of a scheme are read. -/
inductive SchemeKind where
  | special (defaultPort : Nat)
  | file
  | other
  deriving DecidableEq, Repr

namespace SchemeKind

/-- The kind of a scheme. -/
def ofScheme (scheme : String) : SchemeKind :=
  match scheme with
  | "http" | "ws" => .special 80
  | "https" | "wss" => .special 443
  | "ftp" => .special 21
  | "file" => .file
  | _ => .other

/-- Whether a backslash separates segments. -/
def isWeb : SchemeKind → Bool
  | .special _ | .file => true
  | .other => false

/-- The port that is left out. -/
def defaultPort? : SchemeKind → Option Nat
  | .special port => some port
  | _ => none

end SchemeKind

/-- Who asks, whom and at which port. -/
structure Authority where
  user : String
  password : String
  /-- No host is the empty one. -/
  host : Option Host
  port : Option Nat
  deriving DecidableEq, Repr

/-- A path is made of segments, or it is a text of its own. -/
inductive UrlPath where
  | segments (segments : List String)
  | text (content : String)
  deriving DecidableEq, Repr

/-- A URL. -/
structure Url where
  scheme : String
  authority : Option Authority
  path : UrlPath
  query : Option String
  fragment : Option String
  deriving DecidableEq, Repr

namespace Authority

/-- The authority of a host alone. -/
def ofHost (host : Option Host) : Authority :=
  ⟨"", "", host, none⟩

/-- The credentials with their at sign. -/
def renderCredentials (a : Authority) : String :=
  if a.user == "" && a.password == "" then ""
  else a.user ++ (if a.password == "" then "" else ":" ++ a.password) ++ "@"

/-- The written form. -/
def render (a : Authority) : String :=
  a.renderCredentials ++ a.host.elim "" Host.render ++
    a.port.elim "" fun port => ":" ++ toString port

end Authority

namespace Url

/-- The path as it is written. Without an authority it may not begin like one. -/
def pathText (url : Url) : String :=
  match url.path with
  | .text content => content
  | .segments segments =>
    let text := String.join (segments.map ("/" ++ ·))
    match url.authority, segments with
    | none, "" :: _ :: _ => "/." ++ text
    | _, _ => text

/-- The written form. -/
def render (url : Url) : String :=
  url.scheme ++ ":" ++ (url.authority.elim "" fun a => "//" ++ a.render) ++ url.pathText ++
    (url.query.elim "" ("?" ++ ·)) ++ (url.fragment.elim "" ("#" ++ ·))

/-- The host, if there is one. -/
def host? (url : Url) : Option Host :=
  url.authority.bind (·.host)

/-- Whether a character ends the authority. -/
def endsAuthority (web : Bool) (c : Char) : Bool :=
  c == '/' || c == '?' || c == '#' || (web && c == '\\')

/-- The text behind the last at sign, and the credentials before it. -/
def splitCredentials (text : List Char) : Option (List Char) × List Char :=
  match (text.reverse.dropWhile (· != '@')) with
  | [] => (none, text)
  | _ :: before => (some before.reverse, (text.reverse.takeWhile (· != '@')).reverse)

/-- Cuts a host from the port behind it. A colon inside brackets belongs to the host. -/
def splitPort (inBrackets : Bool) : List Char → List Char × Option (List Char)
  | [] => ([], none)
  | c :: rest =>
    if c = ':' ∧ !inBrackets then ([], some rest)
    else
      let inBrackets := if c = '[' then true else if c = ']' then false else inBrackets
      let (host, port) := splitPort inBrackets rest
      (c :: host, port)

/-- Reads a port, which a backslash ends; no digit is no port. -/
def readPort (kind : SchemeKind) (text : List Char) : Except UrlFault (Option Nat × List Char) :=
  let rest := text.dropWhile (· != '\\')
  match text.takeWhile (· != '\\') with
  | [] => .ok (none, rest)
  | digits =>
    match valueInBase? 10 digits with
    | none => .error .invalidPort
    | some port =>
      if 0xFFFF < port then .error .invalidPort
      else .ok (if kind.defaultPort? == some port then none else some port, rest)

/-- Reads the host of a URL that is no file. -/
def readHost (kind : SchemeKind) (text : List Char) : Except UrlFault (Option Host) :=
  match text with
  | [] => if kind.isWeb then .error .emptyHost else .ok none
  | _ => (if kind.isWeb then Host.read text else Host.readOpaque text).map some

/-- Reads an authority, with what is behind its port. The URL ends behind it if `isLast`; only there
may an at sign stand alone. -/
def readAuthority (kind : SchemeKind) (isLast : Bool) (text : List Char) :
    Except UrlFault (Authority × List Char) := do
  if text = ['@'] ∧ !isLast then throw .emptyHost
  let (credentials, place) := splitCredentials text
  let (hostText, portText) := splitPort false place
  let host ← readHost kind hostText
  if host.isNone && portText.isSome then throw .emptyHost
  let (port, rest) ← portText.elim (.ok (none, [])) (readPort kind)
  let given := credentials.getD []
  let encode (part : List Char) := String.ofList (percentEncode inUserSet part)
  let user := encode (given.takeWhile (· != ':'))
  let password := encode ((given.dropWhile (· != ':')).drop 1)
  if host.isNone && !(user == "" && password == "") then throw .emptyHost
  return (⟨user, password, host, port⟩, rest)

/-- Whether a segment stands for the directory it is in. -/
def isSingleDot (segment : List Char) : Bool :=
  [".", "%2e"].contains (String.ofList (segment.map lowerChar))

/-- Whether a segment stands for the directory above. -/
def isDoubleDot (segment : List Char) : Bool :=
  ["..", ".%2e", "%2e.", "%2e%2e"].contains (String.ofList (segment.map lowerChar))

/-- Whether a text names a drive: a letter, and a colon or a bar. -/
def isDrive : List Char → Bool
  | [letter, mark] => letter.isAlpha && (mark == ':' || mark == '|')
  | _ => false

/-- Whether a segment begins with a drive. -/
def beginsWithDrive : List Char → Bool
  | letter :: mark :: rest => isDrive [letter, mark] && rest.head?.all (· == '\\')
  | _ => false

/-- Goes up to the directory above. A drive stays. -/
def parent : List String → List String
  | [] => []
  | segment :: above => if beginsWithDrive segment.toList then segment :: above else above

/-- Resolves the segments of a path, the last one first in `reversed`. -/
def resolve (kind : SchemeKind) (reversed : List String) : List (List Char) → List String
  | [] => reversed
  | segment :: rest =>
    let reversed' :=
      if isDoubleDot segment then
        if rest.isEmpty then "" :: parent reversed else parent reversed
      else if isSingleDot segment then
        if rest.isEmpty then "" :: reversed else reversed
      else
        match kind, reversed, segment with
        | .file, [], [letter, '|'] =>
          if letter.isAlpha then [String.ofList [letter, ':']]
          else [String.ofList (percentEncode inPathSet segment)]
        | _, _, _ => String.ofList (percentEncode inPathSet segment) :: reversed
    resolve kind reversed' rest

/-- The segments of a path, of which the first slash is read. -/
def segmentsOf (kind : SchemeKind) (text : List Char) : List String :=
  let text := if kind.isWeb then text.map fun c => if c = '\\' then '/' else c else text
  (resolve kind [] (splitAt '/' text)).reverse

/-- Reads the path behind an authority. -/
def readPath (kind : SchemeKind) (text : List Char) : UrlPath :=
  match text with
  | [] => .segments (if kind.isWeb then [""] else [])
  | c :: rest =>
    .segments (segmentsOf kind (if c = '/' || (kind.isWeb && c = '\\') then rest else text))

/-- Reads what is behind the scheme and the two slashes, up to the query. -/
def readHierarchy (kind : SchemeKind) (isLast : Bool) (text : List Char) :
    Except UrlFault (Option Authority × UrlPath) := do
  let place := text.takeWhile (!endsAuthority kind.isWeb ·)
  let path := text.dropWhile (!endsAuthority kind.isWeb ·)
  let (authority, rest) ← readAuthority kind (isLast && path.isEmpty) place
  return (some authority, readPath kind (rest ++ path))

/-- Reads the host of a file. This machine's own name counts as none. -/
def readFileHost (text : List Char) : Except UrlFault (Option Host) :=
  match text with
  | [] => .ok none
  | _ =>
    (Host.read text).map fun host => if host = .domain "localhost" then none else some host

/-- A file on a host; one with a drive is on this machine. Empty segments at the front count for
nothing. -/
def fileAt (host : Option Host) (segments : List String) : Option Authority × UrlPath :=
  let hasDrive := segments.head?.any fun segment => isDrive segment.toList
  let kept := segments.dropWhile (· == "")
  (some (.ofHost (if hasDrive then none else host)),
    .segments (if kept.isEmpty then [""] else kept))

/-- Reads what is behind the two slashes of a file. Without a host, the slash that would end it
belongs to the path. -/
def readFilePlace (text : List Char) : Except UrlFault (Option Authority × UrlPath) :=
  let hostText := text.takeWhile (!endsAuthority true ·)
  let path := text.dropWhile (!endsAuthority true ·)
  if isDrive hostText then .ok (fileAt none (segmentsOf .file text))
  else
    (readFileHost hostText).map fun host =>
      fileAt host (segmentsOf .file (if host.isSome then path.drop 1 else path))

/-- Reads what is behind the scheme of a file. -/
def readFile (text : List Char) : Except UrlFault (Option Authority × UrlPath) :=
  let isSlash (c : Char) := c == '/' || c == '\\'
  match text with
  | [] => .ok (fileAt none [])
  | a :: rest =>
    if isSlash a && rest.head?.any isSlash then readFilePlace (rest.drop 1)
    else .ok (fileAt none (segmentsOf .file (if isSlash a then rest else text)))

/-- Reads what is behind the scheme, up to the query; the URL ends there if `isLast`. -/
def readBody (kind : SchemeKind) (isLast : Bool) (text : List Char) :
    Except UrlFault (Option Authority × UrlPath) :=
  match kind with
  | .special _ => readHierarchy kind isLast (text.dropWhile fun c => c == '/' || c == '\\')
  | .file => readFile text
  | .other =>
    match text with
    | '/' :: '/' :: rest => readHierarchy kind isLast rest
    | '/' :: rest => .ok (none, .segments (segmentsOf kind rest))
    | _ => .ok (none, .text (String.ofList (percentEncode isControl text)))

/-- Cuts a text at the first of a separator, which belongs to neither part. -/
def cutAt (separator : Char) (text : List Char) : List Char × Option (List Char) :=
  (text.takeWhile (· != separator),
    match text.dropWhile (· != separator) with
    | [] => none
    | _ :: rest => some rest)

/-- Reads the scheme and its colon. -/
def readScheme (text : List Char) : Option (String × List Char) :=
  match cutAt ':' text with
  | (letter :: scheme, some rest) =>
    if letter.isAlpha && scheme.all fun c => c.isAlphanum || ['+', '-', '.'].contains c then
      some (String.ofList ((letter :: scheme).map lowerChar), rest)
    else none
  | _ => none

/-- What is removed from the ends of a URL. -/
def isEdgeBlank (c : Char) : Bool :=
  c.toNat ≤ 0x20

/-- A text without blanks at its ends and line breaks anywhere. -/
def clean (text : List Char) : List Char :=
  let trimmed := ((text.dropWhile isEdgeBlank).reverse.dropWhile isEdgeBlank).reverse
  trimmed.filter fun c => c != '\t' && c != '\n' && c != '\r'

/-- Reads a URL. -/
def parse (text : String) : Except UrlFault Url := do
  let (scheme, rest) ← (readScheme (clean text.toList)).elim (.error .relativeWithoutBase) .ok
  let kind := SchemeKind.ofScheme scheme
  let (rest, fragment) := cutAt '#' rest
  let (body, query) := cutAt '?' rest
  let (authority, path) ← readBody kind (query.isNone && fragment.isNone) body
  return {
    scheme, authority, path
    query := query.map fun q => String.ofList (percentEncode (inQuerySet kind.isWeb) q)
    fragment := fragment.map fun f => String.ofList (percentEncode inFragmentSet f) }

end Url

end CubeClient
