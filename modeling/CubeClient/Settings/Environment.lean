import CubeClient.Error
import CubeClient.Text.Alphanumeric

/-!
# Variables in settings

A setting may refer to environment variables, as `$NAME` or as `${NAME}`. The text is read once, as
a sequence of tokens, and what a variable holds is never looked at again. A bare name is the longest
run of letters, digits and underscores; a braced one goes up to the first closing brace, or to the
end of the text if there is none. A dollar sign that no name follows stands for itself.
-/

namespace CubeClient

/-- Variables with their values. Of two entries for one name the later holds. -/
structure Environment where
  bindings : List (String × String)
  deriving DecidableEq, Repr

/-- What a definition `key=value` says about a name: what is behind the equals sign that follows the
name, which need not be the first one. -/
def Environment.definition? (name : String) : String × String → Option String
  | (key, value) =>
    let begins := name.toList ++ ['=']
    let text := key.toList ++ '=' :: value.toList
    if begins.isPrefixOf text then some (String.ofList (text.drop begins.length)) else none

/-- The value of a variable. The empty name has none. -/
def Environment.get? (env : Environment) (name : String) : Option String :=
  if name == "" then none else env.bindings.reverse.findSome? (definition? name)

/-- A piece of a text that may refer to variables. -/
inductive SettingToken where
  | literal (c : Char)
  | dollar
  | bare (name : List Char)
  | braced (name : List Char) (closed : Bool)
  deriving DecidableEq, Repr

namespace SettingToken

/-- A character of a bare name. -/
def isNameChar (c : Char) : Bool :=
  Text.isAlphanumeric c || c == '_'

theorem length_lt_of_dropWhile {p : Char → Bool} {cs after : List Char} {c : Char}
    (h : cs.dropWhile p = c :: after) : after.length < cs.length := by
  have hle := (List.dropWhile_suffix (l := cs) p).length_le
  rw [h, List.length_cons] at hle
  exact hle

/-- Cuts a text into tokens. -/
def tokenize : List Char → List SettingToken
  | [] => []
  | '$' :: '\x7b' :: inner =>
    match h : inner.dropWhile (· != '\x7d') with
    | [] => [.braced inner false]
    | _ :: after =>
      have := length_lt_of_dropWhile h
      .braced (inner.takeWhile (· != '\x7d')) true :: tokenize after
  | '$' :: rest =>
    if rest.takeWhile isNameChar = [] then .dollar :: tokenize rest
    else .bare (rest.takeWhile isNameChar) :: tokenize (rest.dropWhile isNameChar)
  | c :: rest => .literal c :: tokenize rest
termination_by cs => cs.length
decreasing_by
  · exact Nat.lt_succ_of_lt (Nat.lt_succ_of_lt this)
  · exact Nat.lt_succ_self _
  · exact Nat.lt_succ_of_le (List.dropWhile_suffix isNameChar).length_le
  · exact Nat.lt_succ_self _

/-- The text a token is written as. -/
def render : SettingToken → List Char
  | .literal c => [c]
  | .dollar => ['$']
  | .bare name => '$' :: name
  | .braced name closed => '$' :: '\x7b' :: (name ++ if closed then ['\x7d'] else [])

/-- What a token stands for. -/
def value (env : Environment) : SettingToken → Except SettingsError String
  | .literal c => .ok (String.singleton c)
  | .dollar => .ok "$"
  | .bare name => reference (String.ofList name)
  | .braced name _ => reference (String.ofList name)
where
  /-- The value of a variable that has to be there. -/
  reference (name : String) : Except SettingsError String :=
    match env.get? name with
    | some v => .ok v
    | none => .error (.missingVariable name)

end SettingToken

/-- A setting with its variables replaced. The first variable that is missing is reported. -/
def Environment.expand (env : Environment) (text : String) : Except SettingsError String :=
  ((SettingToken.tokenize text.toList).mapM (SettingToken.value env)).map String.join

end CubeClient
