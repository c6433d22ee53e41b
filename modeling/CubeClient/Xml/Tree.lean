import CubeClient.Xml.Event

/-!
# From events to a tree

The builder keeps the open elements on a stack and the root once it is complete. White space alone
is dropped wherever it stands, outside the root and inside an element; any other text is kept as it
is. `Element.events` goes the other way: it is the sequence of events that a tree is written as.

A document has exactly one root and no text beside it. What breaks this is reported at the first
event that does, or at the end of the document.
-/

namespace CubeClient.Xml

/-- Why events are not a document. -/
inductive TreeFault where
  | strayEndTag
  | secondRoot
  | textOutsideRoot
  | unclosed (name : String)
  | noRoot
  deriving DecidableEq, Repr

/-- The wording of a tree fault. -/
def TreeFault.message : TreeFault → String
  | .strayEndTag => "unbalanced end tag"
  | .secondRoot => "multiple root elements"
  | .textOutsideRoot => "text outside of root element"
  | .unclosed name => "document ended inside <" ++ name ++ ">"
  | .noRoot => "document has no root element"

/-- The builder between two events: the open elements, innermost first, and the finished root. -/
structure TreeBuilder where
  stack : List Element
  root : Option Element
  deriving Repr

namespace TreeBuilder

/-- Before the first event. -/
def initial : TreeBuilder :=
  ⟨[], none⟩

/-- Puts a finished element into the one around it, or makes it the root. -/
def attach (b : TreeBuilder) (e : Element) : Except TreeFault TreeBuilder :=
  match b.stack, b.root with
  | parent :: outer, _ => .ok { b with stack := parent.push e.toNode :: outer }
  | [], none => .ok { b with root := some e }
  | [], some _ => .error .secondRoot

/-- Puts text into the innermost open element, unless it is white space. -/
def pushText (b : TreeBuilder) (content : String) : Except TreeFault TreeBuilder :=
  if Text.isBlank content then .ok b
  else
    match b.stack with
    | [] => .error .textOutsideRoot
    | parent :: outer => .ok { b with stack := parent.push (.text content) :: outer }

/-- Takes one event. -/
def step (b : TreeBuilder) : Event → Except TreeFault TreeBuilder
  | .start tag => .ok { b with stack := ⟨tag, []⟩ :: b.stack }
  | .empty tag => b.attach ⟨tag, []⟩
  | .stop =>
    match b.stack with
    | [] => .error .strayEndTag
    | e :: outer => { b with stack := outer }.attach e
  | .text content => b.pushText content
  | .cdata content => b.pushText content
  | .ignored => .ok b

/-- The root, at the end of the document. -/
def finish (b : TreeBuilder) : Except TreeFault Element :=
  match b.stack, b.root with
  | e :: _, _ => .error (.unclosed e.name)
  | [], none => .error .noRoot
  | [], some e => .ok e

end TreeBuilder

namespace Node

mutual

/-- The events a node is written as. -/
def events : Node → List Event
  | .text content => [.text content]
  | .element tag children => .start tag :: (eventsOf children ++ [.stop])

/-- The events some nodes are written as. -/
def eventsOf : List Node → List Event
  | [] => []
  | node :: rest => events node ++ eventsOf rest

end

end Node

namespace Element

/-- The events an element is written as. -/
def events (e : Element) : List Event :=
  e.toNode.events

/-- The element that a complete sequence of events is written for. -/
def ofEvents (events : List Event) : Except TreeFault Element :=
  (events.foldlM TreeBuilder.step .initial).bind TreeBuilder.finish

end Element

end CubeClient.Xml
