import CubeClient.Error
import CubeClient.Settings.Basic
import CubeClient.Text.Utf8
import CubeClient.Toml.Document

/-!
# Settings files

A file has a table for the server and one for the session, either of which may be left out, as may
each of their keys; other keys mean nothing. Each may also be an array of its values in the order
of the keys.

A file that is named in the environment is taken in any case; otherwise the first of the files that
exist, the one in the working directory before the user's own.
-/

namespace CubeClient

open CubeClient.Text
open CubeClient.Toml

/-- A part of the settings as it stands in a file. -/
inductive SettingsPart where
  | absent
  | keyed (entries : Entries)
  | listed (items : List Item)

namespace SettingsPart

/-- The part of the settings that a table has under a key. A date holds no settings. -/
def ofTable? (table : Table) (key : String) : Option SettingsPart :=
  match table.get? key with
  | none => some .absent
  | some (.table _ entries) => some (.keyed entries)
  | some (.array items) => some (.listed items)
  | some (.tables earlier last) =>
    some (.listed ((earlier ++ [last]).map fun entries => .table .opened entries))
  | some (.scalar (.moment _)) => some (.keyed [])
  | some (.scalar _) => none

/-- What a part holds under a key, which is at a position of it. -/
def get? (part : SettingsPart) (position : Nat) (key : String) : Option Item :=
  match part with
  | .absent => none
  | .keyed entries => entries.lookup key
  | .listed items => items[position]?

/-- A setting of a part, or its default; a value of another kind is refused. -/
def setting? {α : Type} (part : SettingsPart) (position : Nat) (key : String) (default : α)
    (decode? : Scalar → Option α) : Option α :=
  match part.get? position key with
  | none => some default
  | some (.scalar value) => decode? value
  | some _ => none

end SettingsPart

/-- The content of a text. -/
def Toml.Scalar.text? : Scalar → Option String
  | .text content => some content
  | _ => none

/-- A truth value. -/
def Toml.Scalar.boolean? : Scalar → Option Bool
  | .boolean value => some value
  | _ => none

/-- A natural number of at most 64 bits. -/
def Toml.Scalar.word? : Scalar → Option Nat
  | .integer value => if 0 ≤ value ∧ value < Nat.pow 2 64 then some value.toNat else none
  | _ => none

/-- The server's part of a file. -/
def ServerSettings.ofPart? (part : SettingsPart) : Option ServerSettings := do
  let unset : ServerSettings := {}
  let url ← part.setting? 0 "url" unset.url Scalar.text?
  let user ← part.setting? 1 "user" unset.user fun value => value.text?.map some
  let password ← part.setting? 2 "password" unset.password fun value => value.text?.map some
  let timeoutSeconds ← part.setting? 3 "timeout_seconds" unset.timeoutSeconds Scalar.word?
  return { url, user, password, timeoutSeconds }

/-- The session's part of a file. -/
def SessionSettings.ofPart? (part : SettingsPart) : Option SessionSettings := do
  let unset : SessionSettings := {}
  let catalog ← part.setting? 0 "catalog" unset.catalog fun value => value.text?.map some
  let dataSourceInfo ←
    part.setting? 1 "data_source_info" unset.dataSourceInfo fun value => value.text?.map some
  let cookies ← part.setting? 2 "cookies" unset.cookies Scalar.boolean?
  return { catalog, dataSourceInfo, cookies }

namespace Settings

/-- The settings that a table holds. -/
def ofTable? (table : Table) : Option Settings := do
  let server ← ServerSettings.ofPart? (← SettingsPart.ofTable? table "server")
  let session ← SessionSettings.ofPart? (← SettingsPart.ofTable? table "session")
  return { server, session }

/-- The settings that a file writes. -/
def read (text : String) : Except SettingsError Settings :=
  match (Toml.read? text).bind ofTable? with
  | some settings => .ok settings
  | none => .error .malformed

/-- The settings of a file of some content; `none` is a file that does not exist. -/
def ofFile : Option Bytes → Except SettingsError Settings
  | none => .error .fileNotFound
  | some content =>
    match Utf8.decode? content with
    | none => .error .unreadable
    | some text => read text

/-- The files that settings may come from, by their content. The environment may name one that does
not exist. -/
structure Sources where
  named : Option (Option Bytes)
  working : Option Bytes
  user : Option Bytes

/-- The settings of the first file that there is, or the defaults. -/
def load (sources : Sources) : Except SettingsError Settings :=
  match sources with
  | ⟨some named, _, _⟩ => ofFile named
  | ⟨none, some working, _⟩ => ofFile (some working)
  | ⟨none, none, some user⟩ => ofFile (some user)
  | ⟨none, none, none⟩ => .ok {}

end Settings

end CubeClient
