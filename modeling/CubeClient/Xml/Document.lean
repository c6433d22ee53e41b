import CubeClient.Xml.Tree

/-!
# Documents

Reading a document is reading its events and building the tree. Whichever fault comes first in the
document is the one reported: a malformed piece hides what would be wrong behind it, and a second
root hides the malformed piece behind it.
-/

namespace CubeClient.Xml

/-- Why bytes are not a document. -/
inductive DocumentFault where
  | malformed (fault : MarkupFault)
  | tree (fault : TreeFault)
  deriving DecidableEq, Repr

namespace Element

/-- Reads a document and answers its root. -/
def parse (bytes : Text.Bytes) : Except DocumentFault Element :=
  let (events, fault) := Event.ofBytes bytes
  match events.foldlM TreeBuilder.step .initial with
  | .error e => .error (.tree e)
  | .ok builder =>
    match fault with
    | some f => .error (.malformed f)
    | none => builder.finish.mapError .tree

end Element

end CubeClient.Xml
