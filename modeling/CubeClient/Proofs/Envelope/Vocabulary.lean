import CubeClient.Envelope.Response
import CubeClient.Proofs.Xml.Fragments
import CubeClient.Request.Catalogue

/-!
# The tags of envelopes

The tags that requests and responses are written with, and what each of them says where it stands.
The namespaces hold no character that would have to be escaped.
-/

namespace CubeClient.Envelope

open CubeClient.Text CubeClient.Xml Markup

/-! ## Attributes -/

/-- A text without characters to escape is written as it is. -/
theorem escape_eq {s : String} (h : escapeList s.toList = s.toList) : escape s = s := by
  rw [escape, h, String.ofList_toList]

/-- A namespace can be bound to a prefix. -/
def Bindable (qualifier : NCName) (uri : String) : Prop :=
  qualifier.bytes ≠ ascii "xml" ∧ qualifier.bytes ≠ ascii "xmlns" ∧
    Utf8.encode uri ≠ xmlNamespace ∧ Utf8.encode uri ≠ xmlnsNamespace

instance (qualifier : NCName) (uri : String) : Decidable (Bindable qualifier uri) :=
  inferInstanceAs (Decidable (_ ∧ _ ∧ _ ∧ _))

/-- The declaration of a prefix. -/
def prefixDeclaration (qualifier : NCName) (key uri : String)
    (hkey : Utf8.encode key = ascii "xmlns:" ++ qualifier.bytes)
    (huri : escapeList uri.toList = uri.toList) (h : Bindable qualifier uri) :
    WrittenAttribute where
  key := key
  value := uri
  assignment := .declares
    { qualifier := some qualifier
      uri := Utf8.encode uri
      allowed := fun _ hq => Option.some.inj hq ▸ .inr h }
  key_eq := hkey
  value_eq := by
    rw [escape_eq huri]
    rfl

/-- The declaration of the default namespace. -/
def defaultDeclaration (uri : String) (huri : escapeList uri.toList = uri.toList) :
    WrittenAttribute where
  key := "xmlns"
  value := uri
  assignment := .declares
    { qualifier := none
      uri := Utf8.encode uri
      allowed := nofun }
  key_eq := by
    show Utf8.encode "xmlns" = ascii "xmlns"
    decide
  value_eq := by
    rw [escape_eq huri]
    rfl

/-- The prefix of SOAP elements. -/
def soapPrefix : NCName :=
  ⟨ascii "SOAP-ENV", by decide, List.all_eq_true.mp (by decide)⟩

/-- The prefix of the elements that carry responses. -/
def methodPrefix : NCName :=
  .plain "cxmla" (by decide)

theorem escapeList_soapNamespace : escapeList soapNamespace.toList = soapNamespace.toList := by
  decide

theorem escapeList_methodNamespace :
    escapeList methodNamespace.toList = methodNamespace.toList := by
  decide

theorem encode_methodKey : Utf8.encode "xmlns:cxmla" = ascii "xmlns:" ++ methodPrefix.bytes := by
  decide

def soapDeclaration : WrittenAttribute :=
  prefixDeclaration soapPrefix "xmlns:SOAP-ENV" soapNamespace (by decide)
    escapeList_soapNamespace (by decide)

/-- A name under a prefix. -/
def nameUnder (qualifier : NCName) (name : String) (h : isPlainName name = true) : SpelledName :=
  ⟨some qualifier, .plain name h⟩

/-- The encoding style as an attribute. -/
def encodingAttribute : WrittenAttribute where
  key := "SOAP-ENV:encodingStyle"
  value := encodingStyle
  assignment := .gives
    { name := nameUnder soapPrefix "encodingStyle" (by decide)
      raw := Utf8.encode (escape encodingStyle)
      value := encodingStyle
      plain := by decide
      reads := Event.decodeText_encode (unescape?_escape _) }
  key_eq := by decide
  value_eq := rfl

/-! ## Tags -/

/-- The envelope of a request. -/
def requestEnvelope : WrittenTag where
  name := "SOAP-ENV:Envelope"
  spelledName := nameUnder soapPrefix "Envelope" (by decide)
  attributes := [soapDeclaration, encodingAttribute]
  name_eq := by decide
  distinct := by decide

/-- The envelope of a response. -/
def responseEnvelope : WrittenTag where
  name := "SOAP-ENV:Envelope"
  spelledName := nameUnder soapPrefix "Envelope" (by decide)
  attributes := [soapDeclaration]
  name_eq := by decide
  distinct := by decide

def bodyTag : WrittenTag where
  name := "SOAP-ENV:Body"
  spelledName := nameUnder soapPrefix "Body" (by decide)
  attributes := []
  name_eq := by decide
  distinct := by decide

def faultTag : WrittenTag where
  name := "SOAP-ENV:Fault"
  spelledName := nameUnder soapPrefix "Fault" (by decide)
  attributes := []
  name_eq := by decide
  distinct := by decide

def methodTag (action : Action) : WrittenTag where
  name := action.element
  spelledName := ⟨none, .plain action.element (by cases action <;> decide)⟩
  attributes := [defaultDeclaration methodNamespace escapeList_methodNamespace]
  name_eq := rfl
  distinct := by simp

def discoverResponseTag : WrittenTag where
  name := "cxmla:DiscoverResponse"
  spelledName := nameUnder methodPrefix "DiscoverResponse" (by decide)
  attributes := [prefixDeclaration methodPrefix "xmlns:cxmla" methodNamespace encode_methodKey
    escapeList_methodNamespace (by decide)]
  name_eq := by decide
  distinct := by simp

def returnTag : WrittenTag where
  name := "cxmla:return"
  spelledName := nameUnder methodPrefix "return" (by decide)
  attributes := []
  name_eq := by decide
  distinct := by decide

def rootTag : WrittenTag where
  name := "root"
  spelledName := ⟨none, .plain "root" (by decide)⟩
  attributes := [defaultDeclaration rowsetNamespace (by decide)]
  name_eq := rfl
  distinct := by simp

/-! ## What the tags say -/

/-- A namespace is found under the prefix that it has just been bound to. -/
theorem bind_self (scope : NamespaceScope) (target : Option Bytes) {uri : String}
    (h : Utf8.encode uri ≠ []) :
    scope.bind target (Utf8.encode uri) target = some (Utf8.encode uri) := by
  rw [NamespaceScope.bind, if_pos rfl, if_neg h]

/-- A tag whose prefix is in scope is read with the namespace of the prefix and its plain
attributes. -/
theorem read_tag {tag : WrittenTag} {scope : NamespaceScope} {uri name : String}
    (hname : tag.spelledName.localName.bytes = Utf8.encode name)
    (hscope : scope.enter tag.spell tag.spelledName.qualifierBytes = some (Utf8.encode uri)) :
    tag.spell.read scope = ⟨some uri, name, tag.spell.plainAttributes⟩ := by
  show (⟨(scope.enter tag.spell tag.spelledName.qualifierBytes).map Utf8.decodeLossy,
    Utf8.decodeLossy tag.spelledName.localName.bytes, _⟩ : Tag) = _
  rw [hname, hscope, Option.map_some, Utf8.decodeLossy_encode, Utf8.decodeLossy_encode]

def soapScope : NamespaceScope :=
  NamespaceScope.outermost.bind (some soapPrefix.bytes) (Utf8.encode soapNamespace)

theorem soapScope_soap :
    soapScope (some soapPrefix.bytes) = some (Utf8.encode soapNamespace) :=
  bind_self _ _ (by decide)

theorem soapScope_default : soapScope none = none := rfl

/-- The declarations of the outermost tag are no attributes of it. -/
theorem read_requestEnvelope :
    requestEnvelope.spell.read .outermost =
      ⟨some soapNamespace, "Envelope", [⟨"encodingStyle", encodingStyle⟩]⟩ := by
  have hattributes : requestEnvelope.spell.plainAttributes =
      [⟨"encodingStyle", encodingStyle⟩] := by
    show [(⟨Utf8.decodeLossy (Utf8.encode "encodingStyle"), encodingStyle⟩ : Attribute)] = _
    rw [Utf8.decodeLossy_encode]
  rw [← hattributes]
  exact read_tag rfl soapScope_soap

theorem read_responseEnvelope :
    responseEnvelope.spell.read .outermost = ⟨some soapNamespace, "Envelope", []⟩ :=
  read_tag rfl soapScope_soap

theorem read_body : bodyTag.spell.read soapScope = ⟨some soapNamespace, "Body", []⟩ :=
  read_tag rfl soapScope_soap

theorem read_fault : faultTag.spell.read soapScope = ⟨some soapNamespace, "Fault", []⟩ :=
  read_tag rfl soapScope_soap

def methodScope : NamespaceScope :=
  soapScope.bind none (Utf8.encode methodNamespace)

theorem methodScope_default : methodScope none = some (Utf8.encode methodNamespace) :=
  bind_self _ _ (by decide)

/-- The method of a request is in its own namespace, which it declares. -/
theorem read_method (action : Action) :
    (methodTag action).spell.read soapScope = ⟨some methodNamespace, action.element, []⟩ :=
  read_tag rfl methodScope_default

def responseScope : NamespaceScope :=
  soapScope.bind (some methodPrefix.bytes) (Utf8.encode methodNamespace)

theorem responseScope_method :
    responseScope (some methodPrefix.bytes) = some (Utf8.encode methodNamespace) :=
  bind_self _ _ (by decide)

/-- The response to Discover is in the method's namespace by a prefix. -/
theorem read_discoverResponse :
    discoverResponseTag.spell.read soapScope = ⟨some methodNamespace, "DiscoverResponse", []⟩ :=
  read_tag rfl responseScope_method

theorem read_return :
    returnTag.spell.read responseScope = ⟨some methodNamespace, "return", []⟩ :=
  read_tag rfl responseScope_method

def rowsetScope : NamespaceScope :=
  responseScope.bind none (Utf8.encode rowsetNamespace)

theorem rowsetScope_default : rowsetScope none = some (Utf8.encode rowsetNamespace) :=
  bind_self _ _ (by decide)

/-- The root of a rowset is in the namespace of rowsets, which it declares as the default. -/
theorem read_root : rootTag.spell.read responseScope = ⟨some rowsetNamespace, "root", []⟩ :=
  read_tag rfl rowsetScope_default

end CubeClient.Envelope
