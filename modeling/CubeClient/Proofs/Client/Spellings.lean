import CubeClient.Proofs.Deferred.Discover
import CubeClient.Proofs.Envelope.Vocabulary
import CubeClient.Proofs.Xml.Respelling

/-!
# Spellings of a response

A client sees what a response says and not how it is spelled. Whatever prefixes a server chooses,
wherever it declares them and whichever it declares in vain, documents of one tree are read as that
tree, so calls answer the same.
-/

namespace CubeClient

open CubeClient.Envelope CubeClient.Text CubeClient.Xml

/-! ## Two documents of one tree -/

section

variable {first second : SpelledDocument}

/-- Documents that say one tree are parsed alike. -/
theorem parse_eq_of_tree_eq (h : first.tree = second.tree) :
    Element.parse second.bytes = Element.parse first.bytes := by
  rw [Element.parse_bytes, Element.parse_bytes, h]

theorem parseResponse_eq_of_tree_eq (h : first.tree = second.tree) :
    parseResponse second.bytes = parseResponse first.bytes := by
  rw [parseResponse, parseResponse, parse_eq_of_tree_eq h]

/-- A call that reads its reply as a response cannot tell two documents of one tree apart. -/
def Call.Ignores {α : Type} (call : Call α) (first second : SpelledDocument) : Prop :=
  ∃ message read, call = .message message read ∧
    read (.ok second.bytes) = read (.ok first.bytes)

/-- Discover cannot tell documents of one tree apart, whatever is made of the rows. -/
theorem discover_ignores {β : Type} (h : first.tree = second.tree) (client : Client)
    {request : RequestType} {restrictions : Restrictions} (catalog : Option String)
    (hvalid : request.validate restrictions = .ok ())
    (decode : List Element → Except ClientError β) :
    ((client.discover request catalog restrictions).andThen decode).Ignores first second := by
  rw [Client.discover, hvalid]
  refine ⟨_, _, rfl, ?_⟩
  show ((parseResponse second.bytes).map _).bind decode =
    ((parseResponse first.bytes).map _).bind decode
  rw [parseResponse_eq_of_tree_eq h]

theorem execute_ignores {β : Type} (h : first.tree = second.tree) (client : Client)
    (statement : String) (decode : Element → Except ClientError β) :
    ((client.execute statement).andThen decode).Ignores first second := by
  refine ⟨_, _, rfl, ?_⟩
  show (parseResponse second.bytes).bind decode = (parseResponse first.bytes).bind decode
  rw [parseResponse_eq_of_tree_eq h]

end

/-- How a response is spelled makes no difference. Documents that differ in their prefixes and
declarations say one tree, documents of one tree are read as that tree, and so calls answer the
same. Declarations are no attributes, and what an element declares is its own affair and that of
what is inside it. -/
theorem spellings_agree :
    (∀ first second : SpelledDocument, first.Agrees second → first.tree = second.tree) ∧
    (∀ first second : SpelledDocument, first.tree = second.tree →
      Element.parse first.bytes = .ok first.tree ∧ Element.parse second.bytes = .ok first.tree ∧
      parseResponse second.bytes = parseResponse first.bytes ∧
      (∀ {β : Type} (client : Client) (request : RequestType) (catalog : Option String)
        (restrictions : Restrictions) (decode : List Element → Except ClientError β),
        request.validate restrictions = .ok () →
        ((client.discover request catalog restrictions).andThen decode).Ignores first second) ∧
      ∀ {β : Type} (client : Client) (statement : String) (decode : Element → Except ClientError β),
        ((client.execute statement).andThen decode).Ignores first second) ∧
    (∀ d : SpelledDocument, ∃ e, Element.parse d.bytes = .ok e ∧
      e.tags.map (·.attributes) = d.root.tags.map SpelledTag.plainAttributes) ∧
    ∀ (place : PlaceInDocument) (e : SpelledElement),
      Element.parse (place.fill e).bytes =
        .ok ⟨place.tag.read .outermost, place.nodes.fill (e.read place.scope).toNode⟩ := by
  refine ⟨fun _ _ h => h.tree_eq, ?_, ?_, ?_⟩
  · intro first second h
    refine ⟨Element.parse_bytes first, h ▸ Element.parse_bytes second,
      parseResponse_eq_of_tree_eq h, ?_, ?_⟩
    · intro β client request catalog restrictions decode hvalid
      exact discover_ignores h client catalog hvalid decode
    · intro β client statement decode
      exact execute_ignores h client statement decode
  · intro d
    exact ⟨d.tree, Element.parse_bytes d, d.attributes_tree⟩
  · intro place e
    rw [Element.parse_bytes, PlaceInDocument.tree_fill]

/-- A fault whose elements all have the prefix that the envelope declares. -/
def prefixedFault : SpelledElement :=
  .element responseEnvelope.spell
    (.element .none bodyTag.spell (.empty .none faultTag.spell (.done .none)) .none (.done .none))
    .none

/-- An envelope in the default namespace. -/
def defaultEnvelope : WrittenTag where
  name := "Envelope"
  spelledName := ⟨none, responseEnvelope.spelledName.localName⟩
  attributes := [defaultDeclaration soapNamespace escapeList_soapNamespace]
  name_eq := rfl
  distinct := by simp

/-- A body that hides the default namespace and binds another prefix to it. -/
def shadowingBody : WrittenTag where
  name := "cxmla:Body"
  spelledName := ⟨some methodPrefix, bodyTag.spelledName.localName⟩
  attributes := [defaultDeclaration methodNamespace escapeList_methodNamespace,
    prefixDeclaration methodPrefix "xmlns:cxmla" soapNamespace encode_methodKey
      escapeList_soapNamespace (by decide)]
  name_eq := by decide
  distinct := by decide

/-- A fault under a prefix that its body declares. -/
def innerFault : WrittenTag where
  name := "cxmla:Fault"
  spelledName := ⟨some methodPrefix, faultTag.spelledName.localName⟩
  attributes := []
  name_eq := by decide
  distinct := List.nodup_nil

/-- The same fault under other declarations. -/
def shadowingFault : SpelledElement :=
  .element defaultEnvelope.spell
    (.element .none shadowingBody.spell (.empty .none innerFault.spell (.done .none)) .none
      (.done .none))
    .none

/-- An element as a document of its own. -/
def documentOf (root : SpelledElement) : SpelledDocument :=
  ⟨false, .none, root, .none⟩

/-- Whoever asks for catalogs cannot tell the two faults apart. -/
theorem spellings_agree_fault :
    (documentOf prefixedFault).Agrees (documentOf shadowingFault) ∧
    (documentOf prefixedFault).tree = (documentOf shadowingFault).tree ∧
    RequestType.catalogs.validate .empty = .ok () ∧
    ((Deferred.localCatalogs.scope.client.discover .catalogs none .empty).andThen .ok).Ignores
      (documentOf prefixedFault) (documentOf shadowingFault) := by
  have hagrees : (documentOf prefixedFault).Agrees (documentOf shadowingFault) :=
    .element _ ⟨rfl, by decide, .nil⟩
      (.element _ _ ⟨rfl, by decide, .nil⟩ (.empty _ ⟨rfl, by decide, .nil⟩ (.done _)) (.done _))
  have htree := spellings_agree.1 _ _ hagrees
  have hvalid : RequestType.catalogs.validate .empty = .ok () := by decide
  obtain ⟨-, -, -, hdiscover, -⟩ := spellings_agree.2.1 _ _ htree
  exact ⟨hagrees, htree, hvalid, hdiscover _ _ _ _ _ hvalid⟩

end CubeClient
