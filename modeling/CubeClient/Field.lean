import CubeClient.Error
import CubeClient.Number.Binary
import CubeClient.Number.Decimal

/-!
# The fields of a row

A row of a rowset is an element whose children are its fields. Fields go by local name alone:
servers choose their own prefixes, and some leave the namespace out.

An optional field that is absent or blank has no value. A strict field in the same state is an
error; no default is made up for it. Numbers are read from the trimmed text, and an error keeps the
text as it was.
-/

namespace CubeClient.Field

open CubeClient.Number CubeClient.Text CubeClient.Xml

/-- The text of a field. A field that holds no text of its own but an element stands for that
element's name, which is how enumerations are sent. -/
def string? (row : Element) (name : String) : Option String :=
  (row.child? none name).map fun field =>
    match isBlank field.ownText, field.elements.head? with
    | true, some marker => marker.name
    | _, _ => field.text

/-- The text of a field that has to be there, possibly empty. -/
def string (row : Element) (name : String) : Except ClientError String :=
  match string? row name with
  | some s => .ok s
  | none => .error (.missingField name)

/-- The text of a field that is there and not empty. -/
def nonempty? (row : Element) (name : String) : Option String :=
  (string? row name).filter (· != "")

/-- Reads a field that may be absent or blank. -/
def optional {α : Type} (read : String → Except NumberFault α) (row : Element) (name : String) :
    Except ClientError (Option α) :=
  match string? row name with
  | none => .ok none
  | some s =>
    if isBlank s then .ok none
    else
      match read (trim s) with
      | .ok value => .ok (some value)
      | .error fault => .error (.invalidField name s fault)

/-- Reads a field that has to be there. -/
def strict {α : Type} (read : String → Except NumberFault α) (row : Element) (name : String) :
    Except ClientError α :=
  match optional read row name with
  | .error e => .error e
  | .ok none => .error (.missingField name)
  | .ok (some value) => .ok value

/-- Reads an integer of a range. -/
def readInteger (range : IntegerRange) (s : String) : Except NumberFault Int :=
  (range.read s).mapError .integer

/-- Reads an integer of any size. -/
def readUnboundedInteger (s : String) : Except NumberFault Int :=
  (readUnbounded s).mapError .integer

/-- Reads a decimal. -/
def readDecimal (s : String) : Except NumberFault Decimal :=
  (Decimal.read? s).elim (.error .decimal) .ok

/-- Reads a binary floating-point number as its bits. -/
def readBinary (format : BinaryFormat) (s : String) : Except NumberFault Nat :=
  (format.read? s).elim (.error .binary) .ok

/-- A 32-bit integer that may be absent. -/
def int32? (row : Element) (name : String) : Except ClientError (Option Int) :=
  optional (readInteger (.signed 32)) row name

/-- A signed integer of a number of bits. -/
def signed (bits : Nat) (row : Element) (name : String) : Except ClientError Int :=
  strict (readInteger (.signed bits)) row name

/-- An integer of any size. -/
def integer (row : Element) (name : String) : Except ClientError Int :=
  strict readUnboundedInteger row name

/-- A decimal of any size. -/
def decimal (row : Element) (name : String) : Except ClientError Decimal :=
  strict readDecimal row name

/-- The bits of a binary floating-point number. -/
def binary (format : BinaryFormat) (row : Element) (name : String) : Except ClientError Nat :=
  strict (readBinary format) row name

/-- A truth value. Only the text `true` is true. -/
def boolean (row : Element) (name : String) : Bool :=
  string? row name == some "true"

end CubeClient.Field
