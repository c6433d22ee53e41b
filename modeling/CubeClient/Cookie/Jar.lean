import CubeClient.Cookie.SetCookie
import CubeClient.Url.Basic

/-!
# Cookie jars

A jar keeps cookies by domain and name; of two cookies with both the same the later holds. Hosts
that differ in their first label share a domain. A request gets the cookies of its domain that have
not expired and whose path it is under.
-/

namespace CubeClient

open CubeClient.Text

/-- The domain that the cookies of a URL belong to: the host, without its first label if it has at
least three, in small letters. A URL without a host has none. -/
def Url.cookieDomain? (url : Url) : Option String :=
  url.host?.map fun host =>
    match host.name? with
    | none => host.render
    | some name =>
      let labels := name.toList
      lower (String.ofList
        (if 2 ≤ labels.count '.' then (labels.dropWhile (· != '.')).drop 1 else labels))

/-- Where a jar keeps a cookie. -/
structure CookieKey where
  domain : String
  name : String
  deriving DecidableEq, Repr

/-- Cookies, each key once. -/
structure CookieJar where
  entries : List (CookieKey × Cookie)
  deriving DecidableEq, Repr

namespace CookieJar

/-- A jar without cookies. -/
def empty : CookieJar :=
  ⟨[]⟩

/-- The cookie of a key. -/
def get? (jar : CookieJar) (key : CookieKey) : Option Cookie :=
  (jar.entries.find? (·.1 == key)).map (·.2)

/-- How many cookies there are. -/
def size (jar : CookieJar) : Nat :=
  jar.entries.length

/-- Keeps a cookie, in place of one of the same key. -/
def insert (jar : CookieJar) (key : CookieKey) (cookie : Cookie) : CookieJar :=
  ⟨jar.entries.filter (·.1 != key) ++ [(key, cookie)]⟩

/-- Keeps the cookie that a header sets, if it sets one. -/
def storeHeader (domain : String) (jar : CookieJar) (header : String) : CookieJar :=
  match SetCookie.read? header with
  | some (name, cookie) => jar.insert ⟨domain, name⟩ cookie
  | none => jar

/-- Keeps the cookies that the headers of a response from a URL set. -/
def store (jar : CookieJar) (url : Url) (headers : List String) : CookieJar :=
  match url.cookieDomain? with
  | some domain => headers.foldl (storeHeader domain) jar
  | none => jar

/-- The cookies of a request to a URL at an instant, with their names. -/
def applicable (jar : CookieJar) (url : Url) (now : Instant) : List (String × Cookie) :=
  match url.cookieDomain? with
  | none => []
  | some domain =>
    jar.entries.filterMap fun (key, cookie) =>
      if key.domain = domain ∧ cookie.isLive now ∧ cookie.matchesPath url.pathText then
        some (key.name, cookie)
      else none

/-- The header of a request to a URL at an instant, if a cookie applies. -/
def header? (jar : CookieJar) (url : Url) (now : Instant) : Option String :=
  match jar.applicable url now with
  | [] => none
  | cookies =>
    some ("; ".intercalate (cookies.map fun (name, cookie) => name ++ "=" ++ cookie.value))

/-- The domains of a jar, in order. -/
def domains (jar : CookieJar) : List String :=
  ((jar.entries.map (·.1.domain)).mergeSort (· ≤ ·)).eraseDups

/-- The names of a domain's cookies, in order. -/
def namesOf (jar : CookieJar) (domain : String) : List String :=
  ((jar.entries.filter (·.1.domain == domain)).map (·.1.name)).mergeSort (· ≤ ·)

/-- A jar in diagnostic output: a line for each domain, with the names of its cookies. -/
def displayText (jar : CookieJar) : String :=
  String.join (jar.domains.map fun domain =>
    domain ++ ": " ++ ", ".intercalate (jar.namesOf domain) ++ "\n")

end CookieJar

end CubeClient
