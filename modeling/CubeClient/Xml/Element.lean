import CubeClient.Text.Blank

/-!
# Elements

An element knows its namespace, its local name and its attributes, and holds text and elements in
document order. Prefixes are gone: two documents that differ only in their prefixes have equal
trees. Attributes go by local name alone.
-/

namespace CubeClient.Xml

/-- An attribute under its local name. -/
structure Attribute where
  name : String
  value : String
  deriving DecidableEq, Repr

/-- What a start tag says. -/
structure Tag where
  namespaceUri : Option String
  name : String
  attributes : List Attribute
  deriving DecidableEq, Repr

/-- A child of an element. -/
inductive Node where
  | text (content : String)
  | element (tag : Tag) (children : List Node)
  deriving Repr

/-- An element with its children in document order. -/
structure Element where
  tag : Tag
  children : List Node
  deriving Repr

namespace Node

/-- The element a node is, if it is one. -/
def element? : Node → Option Element
  | .text _ => none
  | .element tag children => some ⟨tag, children⟩

/-- The text a node is, if it is one. -/
def text? : Node → Option String
  | .text content => some content
  | .element _ _ => none

mutual

/-- The texts of a node and of all nodes inside it, in document order. -/
def texts : Node → List String
  | .text content => [content]
  | .element _ children => textsOf children

/-- The texts of some nodes and of all nodes inside them, in document order. -/
def textsOf : List Node → List String
  | [] => []
  | node :: rest => texts node ++ textsOf rest

end

end Node

namespace Element

/-- An element without attributes and children. -/
def named (name : String) (namespaceUri : Option String) : Element :=
  ⟨⟨namespaceUri, name, []⟩, []⟩

/-- The local name. -/
def name (e : Element) : String :=
  e.tag.name

/-- The namespace, if the element is in one. -/
def namespaceUri (e : Element) : Option String :=
  e.tag.namespaceUri

/-- The element as a child of another. -/
def toNode (e : Element) : Node :=
  .element e.tag e.children

/-- The element with one more child at its end. -/
def push (e : Element) (child : Node) : Element :=
  { e with children := e.children ++ [child] }

/-- Whether the element has this local name and, when one is asked for, this namespace. -/
def isNamed (e : Element) (namespaceUri : Option String) (name : String) : Bool :=
  e.name == name && (namespaceUri.isNone || e.namespaceUri == namespaceUri)

/-- The value of the first attribute of a local name. -/
def attribute? (e : Element) (name : String) : Option String :=
  (e.tag.attributes.find? (·.name == name)).map (·.value)

/-- The child elements, in document order. -/
def elements (e : Element) : List Element :=
  e.children.filterMap Node.element?

/-- The text directly inside the element, its pieces joined. -/
def ownText (e : Element) : String :=
  String.join (e.children.filterMap Node.text?)

/-- The text of the element and of all elements inside it, in document order. -/
def text (e : Element) : String :=
  String.join (Node.textsOf e.children)

/-- The first child element of a name, in a namespace if one is given. -/
def child? (e : Element) (namespaceUri : Option String) (name : String) : Option Element :=
  e.elements.find? (·.isNamed namespaceUri name)

/-- The child elements of a name, in a namespace if one is given. -/
def childrenNamed (e : Element) (namespaceUri : Option String) (name : String) : List Element :=
  e.elements.filter (·.isNamed namespaceUri name)

end Element

end CubeClient.Xml
