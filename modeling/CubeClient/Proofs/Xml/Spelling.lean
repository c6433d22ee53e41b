import CubeClient.Xml.Event

/-!
# Documents as they are spelled

The same tree can be written in many ways: names take their namespaces from prefixes or from a
default, declarations stand where the writer likes, values stand between either quotes, there is
white space inside tags, and there are comments. A `SpelledDocument` fixes all of this. Its `bytes`
are what is sent, and its `tree` is what it says, given by lexical scope: a declaration holds for
the element it stands on and for what is inside, and the innermost one counts.

Only what is spelled well can be built. Document types with unbalanced brackets and references to
entities that a document declares itself are left out, because no reader here knows them.
-/

namespace CubeClient.Xml

open CubeClient.Text Markup

/-! ## Names and values -/

/-- The bytes that structure markup, the colon of a qualified name among them. -/
def markupBytes : Bytes :=
  [lessThan, greaterThan, slash, bang, question, Attributes.equalsSign, singleQuote, doubleQuote,
    QName.colon]

/-- A byte that may stand in a name. -/
def isNameByte (b : UInt8) : Bool :=
  !isBlankByte b && !markupBytes.contains b

/-- A name without a colon. -/
structure NCName where
  bytes : Bytes
  ne_nil : bytes ≠ []
  isName : ∀ b ∈ bytes, isNameByte b = true

/-- The prefix that declarations have. -/
def NCName.xmlns : NCName where
  bytes := ascii "xmlns"
  ne_nil := by decide
  isName := List.all_eq_true.mp (by decide)

/-- White space between parts of a tag, or around the root. -/
structure Spacing where
  bytes : Bytes
  blank : ∀ b ∈ bytes, isBlankByte b = true

def Spacing.none : Spacing where
  bytes := []
  blank := nofun

@[simp] theorem Spacing.bytes_none : Spacing.none.bytes = [] :=
  rfl

/-- A name under a prefix or under none. -/
structure SpelledName where
  qualifier : Option NCName
  localName : NCName

namespace SpelledName

def bytes (name : SpelledName) : QName :=
  match name.qualifier with
  | none => name.localName.bytes
  | some q => q.bytes ++ QName.colon :: name.localName.bytes

def qualifierBytes (name : SpelledName) : Option Bytes :=
  name.qualifier.map NCName.bytes

end SpelledName

/-- A namespace bound to a prefix, or made the default. The prefix `xml` keeps its namespace, and
neither it nor `xmlns` can be given to another. -/
structure SpelledBinding where
  qualifier : Option NCName
  uri : Bytes
  allowed : ∀ q, qualifier = some q →
    (q.bytes = ascii "xml" ∧ uri = xmlNamespace) ∨
      (q.bytes ≠ ascii "xml" ∧ q.bytes ≠ ascii "xmlns" ∧ uri ≠ xmlNamespace ∧
        uri ≠ xmlnsNamespace)

/-- An attribute with its value as it is written and as it is meant. -/
structure SpelledValue where
  name : SpelledName
  raw : Bytes
  value : String
  plain : Declared.ofName? name.bytes = none
  reads : Event.decodeText raw = .ok value

/-- What a tag assigns to a name. -/
inductive Assignment where
  | declares (binding : SpelledBinding)
  | gives (value : SpelledValue)

namespace Assignment

/-- The name that is assigned to. -/
def name : Assignment → SpelledName
  | .declares b =>
    match b.qualifier with
    | none => ⟨none, .xmlns⟩
    | some q => ⟨some .xmlns, q⟩
  | .gives a => a.name

def raw : Assignment → Bytes
  | .declares b => b.uri
  | .gives a => a.raw

/-- The attribute that an assignment is, unless it declares a namespace. -/
def attribute? : Assignment → Option Attribute
  | .declares _ => none
  | .gives a => some ⟨Utf8.decodeLossy a.name.localName.bytes, a.value⟩

end Assignment

/-- An assignment with the white space around its parts and its quotes. -/
structure SpelledAttribute where
  before : Spacing
  assignment : Assignment
  beforeEquals : Spacing
  afterEquals : Spacing
  quote : UInt8
  apart : before.bytes ≠ []
  isQuote : quote = doubleQuote ∨ quote = singleQuote
  closed : quote ∉ assignment.raw

def SpelledAttribute.bytes (a : SpelledAttribute) : Bytes :=
  a.before.bytes ++ (a.assignment.name.bytes ++ (a.beforeEquals.bytes ++ Attributes.equalsSign ::
    (a.afterEquals.bytes ++ a.quote :: (a.assignment.raw ++ [a.quote]))))

/-- A start tag, or an empty tag without its slash. -/
structure SpelledTag where
  name : SpelledName
  attributes : List SpelledAttribute
  trailing : Spacing
  distinct : (attributes.map (·.assignment.name.bytes)).Nodup

/-- A tag as it is written, without its brackets. -/
def SpelledTag.content (tag : SpelledTag) : Bytes :=
  tag.name.bytes ++ (tag.attributes.flatMap SpelledAttribute.bytes ++ tag.trailing.bytes)

/-! ## Content -/

/-- Text between two pieces of markup, possibly none. -/
structure CharData where
  raw : Bytes
  value : String
  inert : lessThan ∉ raw
  reads : Event.decodeText raw = .ok value

/-- Markup that says nothing about the tree. -/
inductive Remark where
  | comment (body : Bytes) (closed : ¬ [hyphen, hyphen] <:+: body ++ [hyphen])
  | instruction (body : Bytes) (closed : ¬ [question, greaterThan] <:+: question :: body)
  | documentType (body : Bytes) (named : ∃ b ∈ body, isBlankByte b = false)
      (nested : ∀ front, front <+: body → front.count greaterThan ≤ front.count lessThan)
      (closed : body.count greaterThan = body.count lessThan)

def Remark.bytes : Remark → Bytes
  | .comment body _ => ascii "<!--" ++ (body ++ ascii "-->")
  | .instruction body _ => ascii "<?" ++ (body ++ ascii "?>")
  | .documentType body .. => ascii "<!DOCTYPE" ++ (body ++ ascii ">")

structure SpelledSection where
  raw : Bytes
  closed : ¬ [closeBracket, closeBracket, greaterThan] <:+: raw

/-- What stands between a start tag and its end tag: text, and markup with text behind it. -/
inductive Content where
  | done (last : CharData)
  | remark (before : CharData) (piece : Remark) (rest : Content)
  | cdata (before : CharData) (piece : SpelledSection) (rest : Content)
  | empty (before : CharData) (tag : SpelledTag) (rest : Content)
  | element (before : CharData) (tag : SpelledTag) (inner : Content) (closing : Spacing)
      (rest : Content)

def Content.bytes : Content → Bytes
  | .done last => last.raw
  | .remark before piece rest => before.raw ++ (piece.bytes ++ rest.bytes)
  | .cdata before piece rest =>
    before.raw ++ (ascii "<![CDATA[" ++ (piece.raw ++ (ascii "]]>" ++ rest.bytes)))
  | .empty before tag rest =>
    before.raw ++ (ascii "<" ++ (tag.content ++ (ascii "/>" ++ rest.bytes)))
  | .element before tag inner closing rest =>
    before.raw ++ (ascii "<" ++ (tag.content ++ (ascii ">" ++ (inner.bytes ++ (ascii "</" ++
      (tag.name.bytes ++ (closing.bytes ++ (ascii ">" ++ rest.bytes))))))))

/-! ## What content says -/

/-- The namespace of every prefix, and of names without one. -/
abbrev NamespaceScope := Option Bytes → Option Bytes

namespace NamespaceScope

/-- What holds outside all declarations. -/
def outermost : NamespaceScope := fun qualifier =>
  if qualifier = some (ascii "xml") then some xmlNamespace
  else if qualifier = some (ascii "xmlns") then some xmlnsNamespace
  else none

/-- A scope with one more declaration, which hides an earlier one of the same prefix. The empty name
is no namespace. -/
def bind (scope : NamespaceScope) (target : Option Bytes) (uri : Bytes) : NamespaceScope :=
  fun qualifier => if qualifier = target then (if uri = [] then none else some uri)
    else scope qualifier

/-- A scope with what an assignment declares. -/
def assign (scope : NamespaceScope) : Assignment → NamespaceScope
  | .declares b => scope.bind (b.qualifier.map NCName.bytes) b.uri
  | .gives _ => scope

/-- The scope of an element: its own declarations hold for its name, its attributes and its
content. -/
def enter (scope : NamespaceScope) (tag : SpelledTag) : NamespaceScope :=
  (tag.attributes.map (·.assignment)).foldl assign scope

end NamespaceScope

/-- The attributes of a tag, declarations left out. -/
def SpelledTag.plainAttributes (tag : SpelledTag) : List Attribute :=
  tag.attributes.filterMap (·.assignment.attribute?)

/-- What a tag says in a scope. -/
def SpelledTag.read (tag : SpelledTag) (scope : NamespaceScope) : Tag where
  namespaceUri := (scope.enter tag tag.name.qualifierBytes).map Utf8.decodeLossy
  name := Utf8.decodeLossy tag.name.localName.bytes
  attributes := tag.plainAttributes

/-- A text as a child; white space alone is none. -/
def Node.ofText (text : String) : List Node :=
  if isBlank text then [] else [.text text]

/-- The nodes that content says in a scope. -/
def Content.nodes (scope : NamespaceScope) : Content → List Node
  | .done last => Node.ofText last.value
  | .remark before _ rest => Node.ofText before.value ++ rest.nodes scope
  | .cdata before piece rest =>
    Node.ofText before.value ++ (Node.ofText (Utf8.decodeLossy piece.raw) ++ rest.nodes scope)
  | .empty before tag rest =>
    Node.ofText before.value ++ .element (tag.read scope) [] :: rest.nodes scope
  | .element before tag inner _ rest =>
    Node.ofText before.value ++
      .element (tag.read scope) (inner.nodes (scope.enter tag)) :: rest.nodes scope

/-! ## Elements and documents -/

inductive SpelledElement where
  | empty (tag : SpelledTag)
  | element (tag : SpelledTag) (inner : Content) (closing : Spacing)

namespace SpelledElement

def bytes : SpelledElement → Bytes
  | .empty tag => ascii "<" ++ (tag.content ++ ascii "/>")
  | .element tag inner closing =>
    ascii "<" ++ (tag.content ++ (ascii ">" ++ (inner.bytes ++ (ascii "</" ++
      (tag.name.bytes ++ (closing.bytes ++ ascii ">"))))))

/-- What an element says in a scope. -/
def read (scope : NamespaceScope) : SpelledElement → Element
  | .empty tag => ⟨tag.read scope, []⟩
  | .element tag inner _ => ⟨tag.read scope, inner.nodes (scope.enter tag)⟩

end SpelledElement

/-- What may stand beside the root. -/
structure Surroundings where
  remarks : List (Spacing × Remark)
  last : Spacing

def Surroundings.none : Surroundings where
  remarks := []
  last := .none

def Surroundings.bytes (s : Surroundings) : Bytes :=
  s.remarks.flatMap (fun (before, remark) => before.bytes ++ remark.bytes) ++ s.last.bytes

@[simp] theorem Surroundings.bytes_none : Surroundings.none.bytes = [] :=
  rfl

/-- A document: a byte order mark or none, the root, and what stands beside it. -/
structure SpelledDocument where
  marked : Bool
  before : Surroundings
  root : SpelledElement
  after : Surroundings

namespace SpelledDocument

def bytes (d : SpelledDocument) : Bytes :=
  (if d.marked then Event.byteOrderMark else []) ++
    (d.before.bytes ++ (d.root.bytes ++ d.after.bytes))

/-- The element that the document says. -/
def tree (d : SpelledDocument) : Element :=
  d.root.read .outermost

end SpelledDocument

end CubeClient.Xml
