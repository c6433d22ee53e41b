import CubeClient.Settings.Environment

/-!
# Settings

What a connection needs to know: where the server is and how to log in, and what each request of a
session is sent with. Texts of the server part may refer to environment variables; they are expanded
when a connection is opened, not when settings are read.
-/

namespace CubeClient

/-- Where the server is and how to log in. -/
structure ServerSettings where
  url : String := "http://localhost:8080/xmla"
  user : Option String := none
  password : Option String := none
  timeoutSeconds : Nat := 30
  deriving DecidableEq, Repr

/-- What each request of a session is sent with. -/
structure SessionSettings where
  catalog : Option String := none
  dataSourceInfo : Option String := none
  cookies : Bool := true
  deriving DecidableEq, Repr

/-- The settings of a connection. -/
structure Settings where
  server : ServerSettings := {}
  session : SessionSettings := {}
  deriving DecidableEq, Repr

namespace Settings

/-- Settings for a server, and the defaults for all else. -/
def forUrl (url : String) : Settings :=
  { server := { url } }

/-- The settings with another catalog. -/
def withCatalog (settings : Settings) (catalog : String) : Settings :=
  { settings with session := { settings.session with catalog := some catalog } }

end Settings

end CubeClient
