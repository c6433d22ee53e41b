import CubeClient.Deferred.Program
import CubeClient.Xml.Element

/-!
# Filling a collection from rows

The rows of an answer become objects one after the other. A handler says what a row becomes: an
object, or nothing. It sees the list of the rows before, and it may read other collections. The list
takes no unique name twice; a plain handler leaves it to the list to refuse one, a merging handler
leaves out the rows of objects that are already there.
-/

namespace CubeClient.Deferred

open CubeClient.Xml

/-- What a row becomes, given the list so far; no object leaves the row out. -/
abbrev RowHandler (κ ι : Type) [Named ι] :=
  Element → NamedList ι → Program κ ι (Except ClientError (Option ι))

namespace RowHandler

variable {κ ι : Type} [Named ι]

/-- Every row becomes an object. -/
def plain (build : Element → Except ClientError ι) : RowHandler κ ι :=
  fun row _ => .done ((build row).map some)

/-- Every row becomes an object, unless its unique name is already in the list. -/
def merging (build : Element → Except ClientError ι) : RowHandler κ ι :=
  fun row list =>
    .done ((build row).map fun item =>
      if list.containsUnique (Named.uniqueName item) then none else some item)

end RowHandler

variable {κ ι : Type} [Named ι]

/-- Adds rows to a list. The first fault ends it. -/
def fillFrom (label : String) (handler : RowHandler κ ι) :
    List Element → NamedList ι → Population κ ι
  | [], list => .done (.ok list)
  | row :: rest, list =>
    (handler row list).bind fun
      | .error error => .done (.error error)
      | .ok none => fillFrom label handler rest list
      | .ok (some item) =>
        match list.insert? item with
        | some list => fillFrom label handler rest list
        | none => .done (.error (.duplicateName label (Named.uniqueName item)))

/-- Asks for rows and makes a list of them. -/
def populate (label : String) (handler : RowHandler κ ι) (call : Call (List Element)) :
    Population κ ι :=
  (Program.ofCall call).bind fun
    | .error error => .done (.error error)
    | .ok rows => fillFrom label handler rows .empty

end CubeClient.Deferred
