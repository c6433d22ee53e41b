/-!
# Coded columns

Some columns of a rowset hold the code of an enumeration. A code that a server adds beyond the known
ones reads as unknown, except for the type of a dimension, where it is refused.
-/

namespace CubeClient

/-- What a dimension is about. -/
inductive DimensionType where
  | unknown
  | time
  | measure
  | other
  | quantitative
  | accounts
  | customers
  | products
  | scenario
  | utility
  | currency
  | rates
  | channel
  | promotion
  | organization
  | billOfMaterials
  | geography
  deriving DecidableEq, Repr

namespace DimensionType

/-- Every type of dimension. -/
def all : List DimensionType :=
  [.unknown, .time, .measure, .other, .quantitative, .accounts, .customers, .products, .scenario,
    .utility, .currency, .rates, .channel, .promotion, .organization, .billOfMaterials, .geography]

/-- The code of a type of dimension; there is no code 4. -/
def code : DimensionType → Int
  | .unknown => 0
  | .time => 1
  | .measure => 2
  | .other => 3
  | .quantitative => 5
  | .accounts => 6
  | .customers => 7
  | .products => 8
  | .scenario => 9
  | .utility => 10
  | .currency => 11
  | .rates => 12
  | .channel => 13
  | .promotion => 14
  | .organization => 15
  | .billOfMaterials => 16
  | .geography => 17

/-- The type of dimension of a code. -/
def ofCode? (code : Int) : Option DimensionType :=
  all.find? (·.code == code)

/-- The name of a type in diagnostic output. -/
def label : DimensionType → String
  | .unknown => "Unknown"
  | .time => "Time"
  | .measure => "Measure"
  | .other => "Other"
  | .quantitative => "Quantitative"
  | .accounts => "Accounts"
  | .customers => "Customers"
  | .products => "Products"
  | .scenario => "Scenario"
  | .utility => "Utility"
  | .currency => "Currency"
  | .rates => "Rates"
  | .channel => "Channel"
  | .promotion => "Promotion"
  | .organization => "Organization"
  | .billOfMaterials => "BillOfMaterials"
  | .geography => "Geography"

end DimensionType

/-- How a measure is aggregated. -/
inductive Aggregator where
  | unknown
  | sum
  | count
  | min
  | max
  | avg
  | var
  | std
  | distinctCount
  | none
  | averageOfChildren
  | firstChild
  | lastChild
  | firstNonEmpty
  | lastNonEmpty
  | byAccount
  | calculated
  deriving DecidableEq, Repr

/-- The aggregator of a code. -/
def Aggregator.ofCode (code : Int) : Aggregator :=
  match code with
  | 1 => .sum
  | 2 => .count
  | 3 => .min
  | 4 => .max
  | 5 => .avg
  | 6 => .var
  | 7 => .std
  | 8 => .distinctCount
  | 9 => .none
  | 10 => .averageOfChildren
  | 11 => .firstChild
  | 12 => .lastChild
  | 13 => .firstNonEmpty
  | 14 => .lastNonEmpty
  | 15 => .byAccount
  | 127 => .calculated
  | _ => .unknown

/-- What a member is. -/
inductive MemberType where
  | unknown
  | regular
  | all
  | measure
  | formula
  deriving DecidableEq, Repr

/-- The type of member of a code. -/
def MemberType.ofCode (code : Int) : MemberType :=
  match code with
  | 1 => .regular
  | 2 => .all
  | 3 => .measure
  | 4 => .formula
  | _ => .unknown

/-- The name of an aggregator in diagnostic output. -/
def Aggregator.label : Aggregator → String
  | .unknown => "Unknown"
  | .sum => "Sum"
  | .count => "Count"
  | .min => "Min"
  | .max => "Max"
  | .avg => "Avg"
  | .var => "Var"
  | .std => "Std"
  | .distinctCount => "DistinctCount"
  | .none => "None"
  | .averageOfChildren => "AverageOfChildren"
  | .firstChild => "FirstChild"
  | .lastChild => "LastChild"
  | .firstNonEmpty => "FirstNonEmpty"
  | .lastNonEmpty => "LastNonEmpty"
  | .byAccount => "ByAccount"
  | .calculated => "Calculated"

/-- The name of a type in diagnostic output. -/
def MemberType.label : MemberType → String
  | .unknown => "Unknown"
  | .regular => "Regular"
  | .all => "All"
  | .measure => "Measure"
  | .formula => "Formula"

end CubeClient
