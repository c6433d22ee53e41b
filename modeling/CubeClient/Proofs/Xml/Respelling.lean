import CubeClient.Proofs.Xml.Spelling
import Mathlib.Data.List.Forall2

/-!
# Respelling

Two documents agree if they differ in nothing but their prefixes: where one has an element or an
attribute, so has the other, their local names are the same, and what they take for a namespace is
the same in either scope. The declarations on their way are free: the scopes need not be equal, only
what is looked up in them. Documents that agree say one tree (`SpelledDocument.Agrees.tree_eq`).
-/

namespace CubeClient.Xml

open CubeClient.Text

variable {s t : NamespaceScope}

/-! ## Names, attributes and tags -/

/-- The namespace of an attribute. The default is not for attributes. -/
def SpelledName.attributeNamespace? (name : SpelledName) (scope : NamespaceScope) : Option Bytes :=
  name.qualifier.bind fun q => scope (some q.bytes)

/-- Two attributes that differ in their prefixes only. -/
structure SpelledValue.Agrees (s t : NamespaceScope) (v w : SpelledValue) : Prop where
  localName : v.name.localName.bytes = w.name.localName.bytes
  namespaceUri : v.name.attributeNamespace? s = w.name.attributeNamespace? t
  value : v.value = w.value

/-- The attribute that is given, unless it is a declaration. -/
def Assignment.given? : Assignment → Option SpelledValue
  | .declares _ => none
  | .gives v => some v

/-- The attributes that a tag gives. -/
def SpelledTag.given (tag : SpelledTag) : List SpelledValue :=
  tag.attributes.filterMap (·.assignment.given?)

/-- Two tags that differ in their prefixes and declarations only. -/
structure SpelledTag.Agrees (s t : NamespaceScope) (tag other : SpelledTag) : Prop where
  localName : tag.name.localName.bytes = other.name.localName.bytes
  namespaceUri : s.enter tag tag.name.qualifierBytes = t.enter other other.name.qualifierBytes
  given : List.Forall₂ (SpelledValue.Agrees (s.enter tag) (t.enter other)) tag.given other.given

/-- Declarations are no attributes. -/
theorem SpelledTag.plainAttributes_eq (tag : SpelledTag) :
    tag.plainAttributes =
      tag.given.map fun v => ⟨Utf8.decodeLossy v.name.localName.bytes, v.value⟩ := by
  rw [plainAttributes, given, List.map_filterMap]
  congr 1
  funext a
  cases a.assignment <;> rfl

/-- Tags that agree are read alike, whatever their prefixes are. -/
theorem SpelledTag.Agrees.read_eq {tag other : SpelledTag} (h : tag.Agrees s t other) :
    tag.read s = other.read t := by
  have hattributes : tag.plainAttributes = other.plainAttributes := by
    have hgiven := h.given
    rw [plainAttributes_eq, plainAttributes_eq]
    generalize tag.given = given, other.given = given' at hgiven ⊢
    induction hgiven with
    | nil => rfl
    | cons hv _ ih => rw [List.map_cons, List.map_cons, hv.localName, hv.value, ih]
  rw [read, read, h.localName, h.namespaceUri, hattributes]

/-! ## Content and documents -/

/-- Content that differs in the prefixes and declarations of its tags only. The scopes go along:
what an element declares holds inside it, and what follows it is back in the scope before. -/
inductive Content.Agrees : NamespaceScope → NamespaceScope → Content → Content → Prop
  | done {s t : NamespaceScope} (last : CharData) : Agrees s t (.done last) (.done last)
  | remark {s t : NamespaceScope} {rest rest' : Content} (before : CharData) (piece : Remark)
      (h : Agrees s t rest rest') :
      Agrees s t (.remark before piece rest) (.remark before piece rest')
  | cdata {s t : NamespaceScope} {rest rest' : Content} (before : CharData)
      (piece : SpelledSection) (h : Agrees s t rest rest') :
      Agrees s t (.cdata before piece rest) (.cdata before piece rest')
  | empty {s t : NamespaceScope} {tag tag' : SpelledTag} {rest rest' : Content} (before : CharData)
      (htag : tag.Agrees s t tag') (h : Agrees s t rest rest') :
      Agrees s t (.empty before tag rest) (.empty before tag' rest')
  | element {s t : NamespaceScope} {tag tag' : SpelledTag} {inner inner' rest rest' : Content}
      (before : CharData) (closing : Spacing) (htag : tag.Agrees s t tag')
      (hinner : Agrees (s.enter tag) (t.enter tag') inner inner') (h : Agrees s t rest rest') :
      Agrees s t (.element before tag inner closing rest)
        (.element before tag' inner' closing rest')

theorem Content.Agrees.nodes_eq {content other : Content} (h : content.Agrees s t other) :
    content.nodes s = other.nodes t := by
  induction h with
  | done last => rfl
  | remark before piece _ ih => rw [nodes, nodes, ih]
  | cdata before piece _ ih => rw [nodes, nodes, ih]
  | empty before htag _ ih => rw [nodes, nodes, htag.read_eq, ih]
  | element before closing htag _ _ ihinner ih => rw [nodes, nodes, htag.read_eq, ihinner, ih]

/-- Elements that differ in the prefixes and declarations of their tags only. -/
inductive SpelledElement.Agrees (s t : NamespaceScope) : SpelledElement → SpelledElement → Prop
  | empty {tag tag' : SpelledTag} (htag : tag.Agrees s t tag') :
      Agrees s t (.empty tag) (.empty tag')
  | element {tag tag' : SpelledTag} {inner inner' : Content} (closing : Spacing)
      (htag : tag.Agrees s t tag') (hinner : inner.Agrees (s.enter tag) (t.enter tag') inner') :
      Agrees s t (.element tag inner closing) (.element tag' inner' closing)

theorem SpelledElement.Agrees.read_eq {e other : SpelledElement} (h : e.Agrees s t other) :
    e.read s = other.read t := by
  cases h with
  | empty htag => rw [read, read, htag.read_eq]
  | element closing htag hinner => rw [read, read, htag.read_eq, hinner.nodes_eq]

/-- Documents whose roots differ in their prefixes and declarations only. -/
def SpelledDocument.Agrees (first second : SpelledDocument) : Prop :=
  first.root.Agrees .outermost .outermost second.root

/-- Documents that agree say one tree. -/
theorem SpelledDocument.Agrees.tree_eq {first second : SpelledDocument} (h : first.Agrees second) :
    first.tree = second.tree :=
  h.read_eq

end CubeClient.Xml
