import CubeClient.Settings.Basic
import CubeClient.Text.Quoted
import CubeClient.Url.Basic

/-!
# Servers

A server is an address and, for servers that ask for them, credentials. It comes from settings, in
whose texts variables are expanded first; of several faults the one of the address is reported.
-/

namespace CubeClient

open CubeClient.Text

/-- Where requests go, and as whom. -/
structure ServerInfo where
  url : Url
  user : Option String
  password : Option String
  deriving DecidableEq, Repr

namespace ServerInfo

/-- Reads the address of a server. -/
def readUrl (raw : String) : Except SettingsError Url :=
  (Url.parse raw).mapError fun fault => .invalidSetting (.url raw fault)

/-- Expands a setting that may be absent. -/
def expandOption (env : Environment) : Option String → Except SettingsError (Option String)
  | none => .ok none
  | some text => (env.expand text).map some

/-- The server that settings name. -/
def ofSettings (env : Environment) (settings : ServerSettings) :
    Except SettingsError ServerInfo := do
  let url ← readUrl (← env.expand settings.url)
  let user ← expandOption env settings.user
  let password ← expandOption env settings.password
  return { url, user, password }

/-- A server in diagnostic output. The password is not shown. -/
def debugText (server : ServerInfo) : String :=
  "ServerInfo \x7b url: " ++ quoted server.url.render ++ ", user: " ++ quotedOption server.user ++
    ", password: " ++ quotedOption (server.password.map fun _ => "***") ++ " \x7d"

end ServerInfo

/-- The settings of a session in diagnostic output. -/
def SessionSettings.debugText (session : SessionSettings) : String :=
  "SessionSettings \x7b catalog: " ++ quotedOption session.catalog ++ ", data_source_info: " ++
    quotedOption session.dataSourceInfo ++ ", cookies: " ++ toString session.cookies ++ " \x7d"

end CubeClient
