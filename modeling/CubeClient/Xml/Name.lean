import CubeClient.Xml.Markup

/-!
# Qualified names and namespaces in scope

A qualified name is a prefix and a local name, cut at the first colon. The bindings in scope are a
list with the innermost declaration first, so resolving a prefix is looking it up, and leaving an
element is going back to the list that was there before it.

Declarations are ordinary attributes until they are recognised by their name, `xmlns` or
`xmlns:prefix`. The prefixes `xml` and `xmlns` and their namespaces are reserved.
-/

namespace CubeClient.Xml

open CubeClient.Text

/-- A qualified name as it is written. -/
abbrev QName := Bytes

namespace QName

/-- `:` -/
def colon : UInt8 := 0x3A

/-- What stands before the first colon, if there is one. -/
def qualifier? (name : QName) : Option Bytes :=
  if name.contains colon then some (name.takeWhile (· != colon)) else none

/-- What stands behind the first colon, or the whole name. -/
def localPart (name : QName) : Bytes :=
  if name.contains colon then (name.dropWhile (· != colon)).drop 1 else name

end QName

/-- A namespace declaration: of the default namespace or of a prefix. -/
inductive Declared where
  | default
  | named (qualifier : Bytes)
  deriving DecidableEq, Repr

/-- The declaration that an attribute of this name makes. -/
def Declared.ofName? (name : QName) : Option Declared :=
  if name == Markup.ascii "xmlns" then some .default
  else if (Markup.ascii "xmlns:").isPrefixOf name then some (.named (name.drop 6))
  else none

/-- The namespace of the prefix `xml`. -/
def xmlNamespace : Bytes := Markup.ascii "http://www.w3.org/XML/1998/namespace"

/-- The namespace of the prefix `xmlns`. -/
def xmlnsNamespace : Bytes := Markup.ascii "http://www.w3.org/2000/xmlns/"

/-- The declarations in scope, innermost first. The default namespace is bound to no prefix. -/
structure Bindings where
  entries : List (Option Bytes × Bytes)
  deriving DecidableEq, Repr

namespace Bindings

/-- What is bound before any declaration. -/
def initial : Bindings :=
  ⟨[(some (Markup.ascii "xmlns"), xmlnsNamespace), (some (Markup.ascii "xml"), xmlNamespace)]⟩

/-- The innermost binding of a prefix, or of the default namespace. An empty name binds nothing. -/
def lookup? (bindings : Bindings) (qualifier : Option Bytes) : Option Bytes :=
  match bindings.entries.find? (·.1 == qualifier) with
  | some (_, uri) => if uri.isEmpty then none else some uri
  | none => none

/-- The namespace of an element of this name. -/
def resolve? (bindings : Bindings) (name : QName) : Option Bytes :=
  bindings.lookup? name.qualifier?

/-- Adds a declaration. The reserved prefixes keep their namespaces, and no other prefix gets
them; an empty prefix declares the default namespace. -/
def declare (bindings : Bindings) : Declared → Bytes → Except MarkupFault Bindings
  | .default, uri => .ok ⟨(none, uri) :: bindings.entries⟩
  | .named qualifier, uri =>
    if qualifier == Markup.ascii "xml" then
      if uri == xmlNamespace then .ok bindings else .error .reservedNamespace
    else if qualifier == Markup.ascii "xmlns" then .error .reservedNamespace
    else if uri == xmlNamespace || uri == xmlnsNamespace then .error .reservedNamespace
    else
      let key := if qualifier.isEmpty then none else some qualifier
      .ok ⟨(key, uri) :: bindings.entries⟩

/-- Adds the declarations among an element's attributes, in order. -/
def declareAll (bindings : Bindings) (attributes : List (QName × Bytes)) :
    Except MarkupFault Bindings :=
  attributes.foldlM (fun scope (name, uri) =>
    match Declared.ofName? name with
    | some declared => scope.declare declared uri
    | none => .ok scope) bindings

end Bindings

end CubeClient.Xml
