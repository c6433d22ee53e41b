import CubeClient.Error
import CubeClient.Text.Ascii

/-!
# Types of expressions

The types of expressions and of statement parameters are a closed list. Each type but one has a
representation, a class of values, an SQL type, a sign and a precision. The exception is the symbol:
it names nothing that could be bound, so every such question about it is refused.
-/

namespace CubeClient

/-- The type of an expression or parameter. -/
inductive OlapType where
  | boolean
  | cube
  | decimal
  | dimension
  | hierarchy
  | level
  | member
  | null
  | numeric
  | set
  | string
  | symbol
  | tuple
  deriving DecidableEq, Repr

/-- Kinds of opaque reference. -/
inductive ReferenceKind where
  | set
  | tuple
  | member
  | level
  | hierarchy
  | dimension
  | cube
  deriving DecidableEq, Repr

/-- How values of a type are represented. -/
inductive Representation where
  | boolean
  | numeric
  | string
  | null
  | reference (kind : ReferenceKind)
  deriving DecidableEq, Repr

/-- The SQL type reported for a parameter. -/
inductive SqlType where
  | numeric
  | varchar
  | null
  | other
  deriving DecidableEq, Repr

/-- The name of a kind in diagnostic output. -/
def ReferenceKind.label : ReferenceKind → String
  | .set => "Set"
  | .tuple => "Tuple"
  | .member => "Member"
  | .level => "Level"
  | .hierarchy => "Hierarchy"
  | .dimension => "Dimension"
  | .cube => "Cube"

/-- The name of a representation in diagnostic output. -/
def Representation.label : Representation → String
  | .boolean => "Boolean"
  | .numeric => "Numeric"
  | .string => "String"
  | .null => "Null"
  | .reference kind => "Reference(" ++ kind.label ++ ")"

/-- The name of a type in diagnostic output. -/
def SqlType.label : SqlType → String
  | .numeric => "Numeric"
  | .varchar => "Varchar"
  | .null => "Null"
  | .other => "Other"

namespace OlapType

/-- Every type. -/
def all : List OlapType :=
  [.boolean, .cube, .decimal, .dimension, .hierarchy, .level, .member, .null, .numeric, .set,
    .string, .symbol, .tuple]

/-- The name of a type, in capitals. -/
def name : OlapType → String
  | .boolean => "BOOLEAN"
  | .cube => "CUBE"
  | .decimal => "DECIMAL"
  | .dimension => "DIMENSION"
  | .hierarchy => "HIERARCHY"
  | .level => "LEVEL"
  | .member => "MEMBER"
  | .null => "NULL"
  | .numeric => "NUMERIC"
  | .set => "SET"
  | .string => "STRING"
  | .symbol => "SYMBOL"
  | .tuple => "TUPLE"

/-- The type of a name. -/
def ofName? (name : String) : Option OlapType :=
  all.find? (·.name == name)

/-- The name of a type in small letters. -/
def label (type : OlapType) : String :=
  Text.lower type.name

/-- A property of the types that can be bound. -/
def ofBindable {α : Type} (type : OlapType) (value : α) : Except ClientError α :=
  match type with
  | .symbol => .error (.unsupported .symbolParameter)
  | _ => .ok value

/-- Whether a type is one of the two kinds of number. -/
def isNumber (type : OlapType) : Bool :=
  type == .decimal || type == .numeric

/-- How values of a type are represented. -/
def representation : OlapType → Except ClientError Representation
  | .boolean => .ok .boolean
  | .cube => .ok (.reference .cube)
  | .decimal => .ok .numeric
  | .dimension => .ok (.reference .dimension)
  | .hierarchy => .ok (.reference .hierarchy)
  | .level => .ok (.reference .level)
  | .member => .ok (.reference .member)
  | .null => .ok .null
  | .numeric => .ok .numeric
  | .set => .ok (.reference .set)
  | .string => .ok .string
  | .symbol => .error (.unsupported .symbolParameter)
  | .tuple => .ok (.reference .tuple)

/-- The class of the values bound for a type. -/
def className : OlapType → Except ClientError String
  | .boolean => .ok "Boolean"
  | .cube => .ok "Cube"
  | .decimal => .ok "Number"
  | .dimension => .ok "Dimension"
  | .hierarchy => .ok "Hierarchy"
  | .level => .ok "Level"
  | .member => .ok "Member"
  | .null => .ok "Void"
  | .numeric => .ok "Number"
  | .set => .ok "Iterable"
  | .string => .ok "String"
  | .symbol => .error (.unsupported .symbolParameter)
  | .tuple => .ok "Member[]"

/-- The SQL type of a type. -/
def sqlType (type : OlapType) : Except ClientError SqlType :=
  type.ofBindable <|
    match type with
    | .decimal | .numeric => .numeric
    | .string => .varchar
    | .null => .null
    | _ => .other

/-- Whether values of a type carry a sign; only numbers do. -/
def signed (type : OlapType) : Except ClientError Bool :=
  type.ofBindable type.isNumber

/-- The largest 32-bit integer, which stands for no limit. -/
def unlimited : Int := 2147483647

/-- The precision of a type: strings have no limit, and the others report none. -/
def precision (type : OlapType) : Except ClientError Int :=
  type.ofBindable (if type = .string then unlimited else 0)

end OlapType

end CubeClient
