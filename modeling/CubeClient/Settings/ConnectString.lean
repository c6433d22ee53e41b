import CubeClient.Number.Integer
import CubeClient.Settings.Basic
import CubeClient.Text.Ascii
import CubeClient.Text.Blank

/-!
# Connect strings

A connect string is the scheme `jdbc:xmla:` followed by properties, each `key=value`, separated by
semicolons. A value that starts with a quote goes up to that quote, which is doubled to stand for
itself, and anything between a closing quote and the next semicolon is ignored. Other values and all
keys are trimmed.

Known keys are recognised in any letter case and kept under their canonical name; all others are
kept as they are written. A key that comes again keeps its first position and takes its last value.
-/

namespace CubeClient

open CubeClient.Text

/-- The properties this client knows. -/
inductive Property where
  | server
  | catalog
  | dataSource
  | user
  | password
  | cookies
  | timeout
  deriving DecidableEq, Repr

namespace Property

/-- Every property, in the usual order. -/
def all : List Property :=
  [.server, .catalog, .dataSource, .user, .password, .cookies, .timeout]

/-- The canonical key. -/
def key : Property → String
  | .server => "Server"
  | .catalog => "Catalog"
  | .dataSource => "DataSource"
  | .user => "User"
  | .password => "Password"
  | .cookies => "Cookies"
  | .timeout => "Timeout"

/-- The other keys of a property. -/
def aliases : Property → List String
  | .dataSource => ["DataSourceInfo"]
  | _ => []

/-- The property of a key in any letter case. -/
def ofKey? (key : String) : Option Property :=
  all.find? fun p => (p.key :: p.aliases).any (sameIgnoringCase key)

end Property

/-- The properties of a connect string, each key once, in the order they were first written. -/
structure ConnectString where
  properties : List (String × String)
  deriving DecidableEq, Repr

namespace ConnectString

/-- What every connect string starts with. -/
def scheme : String := "jdbc:xmla:"

/-- The key under which a property is kept. -/
def canonicalKey (key : String) : String :=
  (Property.ofKey? key).elim key Property.key

/-- Sets a property: in its place if the key is there, otherwise at the end. -/
def set (properties : List (String × String)) (key value : String) : List (String × String) :=
  if properties.any (·.1 == key) then
    properties.map fun (k, v) => if k == key then (k, value) else (k, v)
  else properties ++ [(key, value)]

/-- Reads the rest of a quoted value; `none` if the quote is not closed. -/
def readQuoted (quote : Char) : List Char → Option (List Char × List Char)
  | [] => none
  | c :: rest =>
    if c = quote then
      match rest with
      | [] => some ([], [])
      | d :: after =>
        if d = quote then
          (readQuoted quote after).map fun (value, rest) => (quote :: value, rest)
        else some ([], d :: after)
    else (readQuoted quote rest).map fun (value, rest) => (c :: value, rest)

theorem length_le_of_readQuoted {quote : Char} {cs value after : List Char}
    (h : readQuoted quote cs = some (value, after)) : after.length ≤ cs.length := by
  fun_induction readQuoted quote cs generalizing value after with
  | case1 => simp at h
  | case2 => simp_all
  | case3 rest ih =>
    simp only [Option.map_eq_some_iff, Prod.mk.injEq] at h
    obtain ⟨⟨v, r⟩, hr, _, rfl⟩ := h
    have := ih hr
    simp only [List.length_cons]
    omega
  | case4 d rest hd =>
    simp only [Option.some.injEq, Prod.mk.injEq] at h
    simp [← h.2]
  | case5 c rest hc ih =>
    simp only [Option.map_eq_some_iff, Prod.mk.injEq] at h
    obtain ⟨⟨v, r⟩, hr, _, rfl⟩ := h
    have := ih hr
    simp only [List.length_cons]
    omega

/-- Everything behind the next separator. -/
def skipPast (separator : Char) (cs : List Char) : List Char :=
  (cs.dropWhile (· != separator)).drop 1

theorem length_skipPast_le (separator : Char) (cs : List Char) :
    (skipPast separator cs).length ≤ cs.length := by
  have := (List.dropWhile_suffix (l := cs) (· != separator)).length_le
  simp only [skipPast, List.length_drop]
  omega

theorem length_skipPast_lt (separator c : Char) (cs : List Char) :
    (skipPast separator (c :: cs)).length < (c :: cs).length := by
  simp only [skipPast, List.dropWhile_cons]
  split
  · have := (List.dropWhile_suffix (l := cs) (· != separator)).length_le
    simp only [List.length_drop, List.length_cons]
    omega
  · simp

/-- Reads the value of a property, with the text behind its separator. -/
def readValue? : List Char → Option (List Char × List Char)
  | [] => some ([], [])
  | c :: rest =>
    if c = '\'' ∨ c = '"' then
      (readQuoted c rest).map fun (value, after) => (value, skipPast ';' after)
    else
      let text := c :: rest
      some (trimList (text.takeWhile (· != ';')), skipPast ';' text)

theorem length_le_of_readValue? {cs value after : List Char}
    (h : readValue? cs = some (value, after)) : after.length ≤ cs.length := by
  cases cs with
  | nil => simp_all [readValue?]
  | cons c rest =>
    simp only [readValue?] at h
    split at h
    · simp only [Option.map_eq_some_iff, Prod.mk.injEq] at h
      obtain ⟨⟨v, r⟩, hr, _, rfl⟩ := h
      have h₁ := length_le_of_readQuoted hr
      have h₂ := length_skipPast_le ';' r
      simp only [List.length_cons]
      omega
    · simp only [Option.some.injEq, Prod.mk.injEq] at h
      exact h.2 ▸ length_skipPast_le ';' (c :: rest)

/-- Reads properties one after the other until the text ends. A value without a key is dropped. -/
def readProperties (properties : List (String × String)) :
    List Char → Except ConnectStringFault (List (String × String))
  | [] => .ok properties
  | c :: cs =>
    let key := trimList ((c :: cs).takeWhile (· != '='))
    match h : readValue? (skipPast '=' (c :: cs)) with
    | none => .error (.unterminatedQuote (String.ofList key))
    | some (value, after) =>
      have : after.length < (c :: cs).length :=
        Nat.lt_of_le_of_lt (length_le_of_readValue? h) (length_skipPast_lt '=' c cs)
      let properties :=
        if key.isEmpty then properties
        else set properties (canonicalKey (String.ofList key)) (String.ofList value)
      readProperties properties after
termination_by cs => cs.length
decreasing_by exact this

/-- Reads a connect string. -/
def parse (text : String) : Except SettingsError ConnectString :=
  if scheme.toList.isPrefixOf text.toList then
    match readProperties [] (text.toList.drop scheme.length) with
    | .ok properties => .ok ⟨properties⟩
    | .error fault => .error (.invalidConnectString fault)
  else .error (.invalidConnectString (.missingScheme scheme))

/-- The value of a key as it is kept. -/
def getRaw? (cs : ConnectString) (key : String) : Option String :=
  (cs.properties.find? (·.1 == key)).map (·.2)

/-- The value of a known property. -/
def get? (cs : ConnectString) (property : Property) : Option String :=
  cs.getRaw? property.key

/-- The timeout in whole seconds, or the default. -/
def timeoutSeconds (cs : ConnectString) : Except SettingsError Nat :=
  match cs.get? .timeout with
  | none => .ok ({} : ServerSettings).timeoutSeconds
  | some text =>
    match (Number.IntegerRange.unsigned 64).read text with
    | .ok n => .ok n.toNat
    | .error _ => .error (.invalidSetting (.timeout text))

/-- The settings that the properties say; there has to be a server. -/
def toSettings (cs : ConnectString) : Except SettingsError Settings :=
  match cs.get? .server with
  | none => .error (.invalidConnectString .missingServer)
  | some url =>
    cs.timeoutSeconds.map fun timeoutSeconds =>
      { server := { url, user := cs.get? .user, password := cs.get? .password, timeoutSeconds }
        session :=
          { catalog := cs.get? .catalog
            dataSourceInfo := cs.get? .dataSource
            cookies := (cs.get? .cookies).all fun text => !sameIgnoringCase text "false" } }

end ConnectString

end CubeClient
