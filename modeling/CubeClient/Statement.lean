import CubeClient.Client.Basic
import CubeClient.OlapType

/-!
# Prepared statements

Servers do not tell the parameters of a statement, so a prepared statement has those that its caller
declared, numbered from one. Beside the parameters stand the slots for their values, as many as
there are parameters; that is part of the type, so an ordinal that has a parameter has a slot. A
call that fails leaves the statement behind as it was. Values are kept for the caller and never
sent: what is executed is the statement as it was written.
-/

namespace CubeClient

open CubeClient.Xml

/-- A declared parameter. -/
structure Parameter where
  name : String
  type : OlapType
  deriving DecidableEq, Repr

/-- A statement with its parameters and a slot for the value of each. -/
structure PreparedStatement (ν : Type) where
  client : Client
  mdx : String
  parameters : List Parameter
  values : Vector (Option ν) parameters.length

namespace PreparedStatement

variable {ν : Type}

/-- A statement whose slots are empty. -/
def ofParameters (client : Client) (mdx : String) (parameters : List Parameter) :
    PreparedStatement ν :=
  { client, mdx, parameters, values := Vector.replicate parameters.length none }

/-- How many parameters there are. -/
def parameterCount (s : PreparedStatement ν) : Nat :=
  s.parameters.length

/-- The position of an ordinal. -/
def index (s : PreparedStatement ν) (ordinal : Nat) :
    Except ClientError (Fin s.parameters.length) :=
  if h : ordinal = 0 ∨ s.parameters.length < ordinal then
    .error (.parameterOutOfRange ordinal s.parameterCount)
  else .ok ⟨ordinal - 1, by omega⟩

/-- The parameter of an ordinal. -/
def parameter (s : PreparedStatement ν) (ordinal : Nat) : Except ClientError Parameter :=
  (s.index ordinal).map s.parameters.get

/-- A property of a parameter's type. -/
def typeProperty {α : Type} (s : PreparedStatement ν) (ordinal : Nat)
    (property : OlapType → Except ClientError α) : Except ClientError α := do
  property (← s.parameter ordinal).type

/-- The name of a parameter. -/
def parameterName (s : PreparedStatement ν) (ordinal : Nat) : Except ClientError String :=
  (s.parameter ordinal).map (·.name)

/-- The type of a parameter. -/
def olapType (s : PreparedStatement ν) (ordinal : Nat) : Except ClientError OlapType :=
  (s.parameter ordinal).map (·.type)

/-- The SQL type of a parameter. -/
def sqlType (s : PreparedStatement ν) (ordinal : Nat) : Except ClientError SqlType :=
  s.typeProperty ordinal OlapType.sqlType

/-- The name of a parameter's type. -/
def typeName (s : PreparedStatement ν) (ordinal : Nat) : Except ClientError String :=
  (s.parameter ordinal).map (·.type.name)

/-- The class of the values bound for a parameter. -/
def className (s : PreparedStatement ν) (ordinal : Nat) : Except ClientError String :=
  s.typeProperty ordinal OlapType.className

/-- Whether the values of a parameter carry a sign. -/
def isSigned (s : PreparedStatement ν) (ordinal : Nat) : Except ClientError Bool :=
  s.typeProperty ordinal OlapType.signed

/-- The precision of a parameter. -/
def precision (s : PreparedStatement ν) (ordinal : Nat) : Except ClientError Int :=
  s.typeProperty ordinal OlapType.precision

/-- The scale of a parameter, which no type has. -/
def scale (s : PreparedStatement ν) (ordinal : Nat) : Except ClientError Int :=
  (s.parameter ordinal).map fun _ => 0

/-- The value in a slot. -/
def value? (s : PreparedStatement ν) (ordinal : Nat) : Except ClientError (Option ν) :=
  (s.index ordinal).map s.values.get

/-- Whether a slot has a value. -/
def isSet (s : PreparedStatement ν) (ordinal : Nat) : Except ClientError Bool :=
  (s.index ordinal).map fun index => (s.values.get index).isSome

/-- Fills or empties a slot; without a parameter of the ordinal, nothing. -/
def put (s : PreparedStatement ν) (ordinal : Nat) (value : Option ν) :
    Except ClientError Unit × PreparedStatement ν :=
  match s.index ordinal with
  | .error e => (.error e, s)
  | .ok index => (.ok (), { s with values := s.values.set index value })

/-- Sets a value. -/
def setValue (s : PreparedStatement ν) (ordinal : Nat) (value : ν) :
    Except ClientError Unit × PreparedStatement ν :=
  s.put ordinal (some value)

/-- Takes a value away. -/
def unset (s : PreparedStatement ν) (ordinal : Nat) :
    Except ClientError Unit × PreparedStatement ν :=
  s.put ordinal none

/-- Batches are not offered. -/
def addBatch (s : PreparedStatement ν) : Except ClientError Unit × PreparedStatement ν :=
  (.error (.unsupported .batch), s)

/-- Updates are not offered. -/
def executeUpdate (_ : PreparedStatement ν) : Except ClientError Nat :=
  .error (.unsupported .update)

/-- Streams are not offered as values of a parameter that is there. -/
def setStream (s : PreparedStatement ν) (ordinal : Nat) :
    Except ClientError Unit × PreparedStatement ν :=
  match s.index ordinal with
  | .error e => (.error e, s)
  | .ok _ => (.error (.unsupported .stream), s)

/-- Runs the statement. -/
def execute (s : PreparedStatement ν) : Call Element :=
  s.client.execute s.mdx

end PreparedStatement

end CubeClient
