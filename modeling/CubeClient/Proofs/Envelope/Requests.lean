import CubeClient.Envelope.Request
import CubeClient.Proofs.Envelope.Vocabulary
import CubeClient.Proofs.Request.Validation
import CubeClient.Transport.Canned

/-!
# Requests are read back

The receiver of a request reads the envelope that the caller meant: the documented elements in their
order, and in them the values of the caller, whatever characters these hold. Only a value of nothing
but white space is read back as the empty text. Since the tree is given in full, no value adds,
removes or moves an element.
-/

namespace CubeClient.Envelope

open CubeClient.Text CubeClient.Xml Markup

/-! ## The tree of a request -/

/-- Pairs inside an outer and an inner list element, as a node. -/
def pairNode (outer inner : String) (pairs : Pairs) : Node :=
  .element ⟨some methodNamespace, outer, []⟩ [.element ⟨some methodNamespace, inner, []⟩
    (pairs.entries.map fun (name, value) => Fragment.field (some methodNamespace) name value)]

/-- The tree of an envelope around the content of an action. -/
def requestTree (action : Action) (content : List Node) : Element :=
  ⟨⟨some soapNamespace, "Envelope", [⟨"encodingStyle", encodingStyle⟩]⟩,
    [.element ⟨some soapNamespace, "Body", []⟩
      [.element ⟨some methodNamespace, action.element, []⟩ content]]⟩

def discoverTree (request : RequestType) (restrictions : Restrictions) (properties : Properties) :
    Element :=
  requestTree .discover
    [Fragment.field (some methodNamespace) "RequestType" request.name,
      pairNode "Restrictions" "RestrictionList" restrictions,
      pairNode "Properties" "PropertyList" properties]

def executeTree (statement : String) (properties : Properties) : Element :=
  requestTree .execute
    [.element ⟨some methodNamespace, "Command", []⟩
        [Fragment.field (some methodNamespace) "Statement" statement],
      pairNode "Properties" "PropertyList" properties]

/-! ## Names of elements -/

/-- Pairs whose names can be names of elements. -/
def Plain (pairs : Pairs) : Prop :=
  ∀ pair ∈ pairs.entries, isPlainName pair.1 = true

theorem Plain.push {pairs : Pairs} (h : Plain pairs) {key : String} (hkey : isPlainName key = true)
    (value : String) : Plain (pairs.push key value) := by
  intro pair hpair
  rcases List.mem_append.mp hpair with hpair | hpair
  · exact h pair hpair
  · rw [List.mem_singleton.mp hpair]
    exact hkey

theorem Plain.push? {pairs : Pairs} (h : Plain pairs) {key : String} (hkey : isPlainName key = true)
    (value : Option String) : Plain (pairs.push? key value) := by
  cases value with
  | none => exact h
  | some v => exact h.push hkey v

/-- The properties of a Discover request have names of elements. -/
theorem plain_discover (catalog info : Option String) :
    Plain (Properties.discover catalog info) := by
  have hempty : Plain .empty := nofun
  have hinfo := hempty.push? (show isPlainName "DataSourceInfo" = true by decide) info
  have hcatalog := hinfo.push? (show isPlainName "Catalog" = true by decide) catalog
  exact (hcatalog.push (by decide) "Tabular").push (by decide) "SchemaData"

theorem plain_execute (catalog info : Option String) : Plain (Properties.execute catalog info) := by
  have hempty : Plain .empty := nofun
  have hinfo := hempty.push? (show isPlainName "DataSourceInfo" = true by decide) info
  have hcatalog := hinfo.push? (show isPlainName "Catalog" = true by decide) catalog
  exact (hcatalog.push (by decide) "Multidimensional").push (by decide) "TupleFormat"

/-- Restrictions that the catalogue of requests allows have names of elements. -/
theorem plain_of_valid {request : RequestType} {restrictions : Restrictions}
    (h : request.validate restrictions = .ok ()) : Plain restrictions := by
  have hallowed : request.shape.allowed.all isPlainName = true := by
    cases request <;> decide
  intro pair hpair
  have hkey := (RequestType.validate_eq_ok_iff.mp h).allowed pair.1 (List.mem_map_of_mem hpair)
  exact List.all_eq_true.mp hallowed _ hkey

/-! ## Parsing a request -/

theorem methodScope_uri : (methodScope none).map Utf8.decodeLossy = some methodNamespace := by
  rw [methodScope_default, Option.map_some, Utf8.decodeLossy_encode]

/-- What the declaration at the front of a request says. -/
def declarationBody : Bytes :=
  ascii "xml version=\"1.0\" encoding=\"UTF-8\""

theorem declarationBody_closed : ¬ [question, greaterThan] <:+: question :: declarationBody := by
  intro h
  have hmem : greaterThan ∈ question :: declarationBody := h.subset (by simp)
  exact absurd hmem (by decide)

/-- The declaration at the front of a request, as it is spelled. -/
def declarationSpelled : Surroundings where
  remarks := [(.none, .instruction declarationBody declarationBody_closed)]
  last := .none

theorem encode_declaration : Utf8.encode declaration = declarationSpelled.bytes := by
  decide

section

variable {rest : List Fragment} {more : List Node}

/-- A field is written as an element of the method's namespace. -/
theorem says_field {name : String} (h : isPlainName name = true) (value : String)
    (hrest : Fragment.Says methodScope rest more) :
    Fragment.Says methodScope (.ofText name value :: rest)
      (Fragment.field (some methodNamespace) name value :: more) := by
  rw [← methodScope_uri]
  exact .ofText h value hrest

theorem says_element {name : String} (h : isPlainName name = true) {children : List Fragment}
    {nodes : List Node} (hchildren : Fragment.Says methodScope children nodes)
    (hrest : Fragment.Says methodScope rest more) :
    Fragment.Says methodScope (.element name [] children :: rest)
      (.element ⟨some methodNamespace, name, []⟩ nodes :: more) := by
  rw [← methodScope_uri]
  exact .bare h hchildren hrest

/-- Pairs are written as fields inside their two lists, in order. -/
theorem says_pairList {outer inner : String} (houter : isPlainName outer = true)
    (hinner : isPlainName inner = true) {pairs : Pairs}
    (hkeys : Plain pairs) (hrest : Fragment.Says methodScope rest more) :
    Fragment.Says methodScope (pairList outer inner pairs :: rest)
      (pairNode outer inner pairs :: more) := by
  have hfields : Fragment.Says methodScope (Fragment.ofPairs pairs.entries) _ := .ofPairs hkeys
  rw [methodScope_uri] at hfields
  exact says_element houter (says_element hinner hfields .nil) hrest

end

/-- A request is read as the envelope around its content. -/
theorem parse_request {action : Action} {content : List Fragment} {nodes : List Node}
    (h : Fragment.Says methodScope content nodes) :
    Element.parse (Utf8.encode (requestText (wrap action content))) =
      .ok (requestTree action nodes) := by
  have hmethod : Fragment.Says soapScope
      [.element (methodTag action).name (methodTag action).pairs content] _ :=
    .element (methodTag action) h .nil
  have hbody : Fragment.Says soapScope [.element bodyTag.name bodyTag.pairs
      [.element (methodTag action).name (methodTag action).pairs content]] _ :=
    .element bodyTag hmethod .nil
  rw [read_method, read_body] at hbody
  have hparse := Fragment.parse_render declarationSpelled requestEnvelope hbody
  rw [read_requestEnvelope, ← encode_declaration, ← Utf8.encode_append] at hparse
  exact hparse

/-! ## Reading a request -/

/-- Pairs as they are read back. -/
def readBackPairs (pairs : Pairs) : Pairs :=
  ⟨pairs.entries.map fun (name, value) => (name, Fragment.readBack value)⟩

/-- The pairs inside an outer and an inner list element. -/
def listed? (method : Element) (outer inner : String) : Option Pairs :=
  ((method.child? none outer).bind (·.child? none inner)).map fun list =>
    ⟨list.elements.map fun e => (e.name, e.text)⟩

/-- The properties that a request sends. -/
def sentProperties? (action : Action) (envelope : Element) : Option Pairs :=
  ((envelope.child? none "Body").bind (·.child? none action.element)).bind fun method =>
    listed? method "Properties" "PropertyList"

/-- The tag of an element of a request. -/
abbrev requestTag (name : String) : Tag :=
  ⟨some methodNamespace, name, []⟩

/-- The method is the element inside the body of the envelope. -/
theorem method_requestTree (action : Action) (nodes : List Node) :
    ((requestTree action nodes).child? none "Body").bind (·.child? none action.element) =
      some ⟨requestTag action.element, nodes⟩ := by
  rw [requestTree, Fragment.child?_head _ _ (by decide), Option.bind_some,
    Fragment.child?_head _ _ (by simp)]

/-! ## Round trips -/

theorem readBack_name (request : RequestType) : Fragment.readBack request.name = request.name := by
  have hfull : isBlank request.name = false := by
    cases request <;> decide
  rw [Fragment.readBack, hfull, if_neg (by decide)]

/-- Reading tags from the front, the two lists come before the fields of the pairs. -/
theorem names_pairNode (outer inner : String) (pairs : Pairs) :
    ((pairNode outer inner pairs).tags).map (·.name) =
      outer :: inner :: pairs.entries.map (·.1) := by
  have hfields := Fragment.tags_fields (some methodNamespace) pairs.entries
  simp [pairNode, Node.tags, Node.tagsOf, hfields, Function.comp_def]

theorem names_field (name value : String) :
    ((Fragment.field (some methodNamespace) name value).tags).map (·.name) = [name] := by
  simp [Fragment.field, Node.tags, Node.tagsOf_ofText]

/-- The receiver of some bytes reads this tree and takes this request out of it. -/
structure ReadAs (action : Action) (bytes : Bytes) (tree : Element) (recorded : RecordedRequest)
    (properties : Pairs) (names : List String) : Prop where
  parsed : Element.parse bytes = .ok tree
  recorded : RecordedRequest.ofBody action bytes = recorded
  properties : sentProperties? action tree = some properties
  /-- All elements in document order. -/
  names : tree.tags.map (·.name) = names

/-- A request is read as it is parsed. -/
theorem ReadAs.of_parse {action : Action} {bytes : Bytes} {nodes : List Node}
    {recorded : RecordedRequest} {properties : Pairs} {names : List String}
    (hparse : Element.parse bytes = .ok (requestTree action nodes))
    (hrecorded : RecordedRequest.ofMethod action ⟨requestTag action.element, nodes⟩ = recorded)
    (hproperties : listed? ⟨requestTag action.element, nodes⟩ "Properties" "PropertyList" =
      some properties)
    (hnames : ["Envelope", "Body", action.element] ++ (Node.tagsOf nodes).map (·.name) = names) :
    ReadAs action bytes (requestTree action nodes) recorded properties names where
  parsed := hparse
  recorded := by
    rw [RecordedRequest.ofBody, hparse]
    dsimp only
    rw [method_requestTree]
    exact hrecorded
  properties := by
    rw [sentProperties?, method_requestTree]
    exact hproperties
  names := by
    rw [← hnames]
    simp [requestTree, Element.tags, Element.toNode, Node.tags, Node.tagsOf]

/-- Listed pairs are read back. -/
theorem listed?_pairNode (outer inner : String) (pairs : Pairs) (method : Tag) (rest : List Node) :
    listed? ⟨method, pairNode outer inner pairs :: rest⟩ outer inner =
      some (readBackPairs pairs) := by
  rw [listed?, pairNode, Fragment.child?_head _ _ (by simp), Option.bind_some,
    Fragment.child?_head _ _ (by simp), Option.map_some, Element.elements, Fragment.elements_fields,
    List.map_map, readBackPairs]
  congr 2
  exact List.map_congr_left fun pair _ => congrArg (pair.1, ·) (Fragment.text_ofText _ pair.2)

/-- A list is looked for behind elements of another name. -/
theorem listed?_tail {tag : Tag} {outer : String} (h : tag.name ≠ outer) (inner : String)
    (children rest : List Node) (method : Tag) :
    listed? ⟨method, .element tag children :: rest⟩ outer inner =
      listed? ⟨method, rest⟩ outer inner := by
  rw [listed?, Fragment.child?_tail _ _ (by simp [h])]
  rfl

theorem child?_field (name value : String) (method : Tag) (rest : List Node) :
    ((⟨method, Fragment.field (some methodNamespace) name value :: rest⟩ : Element).child? none
      name).map (·.text) = some (Fragment.readBack value) := by
  rw [Fragment.field, Fragment.child?_head _ _ (by simp), Option.map_some, Fragment.text_ofText]

theorem ofMethod_eq (action : Action) (method : Element) :
    RecordedRequest.ofMethod action method =
      ⟨action, (method.child? none "RequestType").map (·.text),
        (listed? method "Restrictions" "RestrictionList").getD .empty,
        ((method.child? none "Command").bind (·.child? none "Statement")).map (·.text)⟩ := by
  rw [RecordedRequest.ofMethod, listed?]
  cases (method.child? none "Restrictions").bind (·.child? none "RestrictionList") <;> rfl

/-- A valid Discover request is read as the request type, the restrictions and the properties it was
made of. -/
theorem discover_readAs {request : RequestType} {restrictions : Restrictions}
    {properties : Properties} (hvalid : request.validate restrictions = .ok ())
    (hkeys : Plain properties) :
    ReadAs .discover (discoverRequest request restrictions properties)
      (discoverTree request restrictions properties)
      ⟨.discover, some request.name, readBackPairs restrictions, none⟩ (readBackPairs properties)
      (["Envelope", "Body", "Discover", "RequestType", "Restrictions", "RestrictionList"] ++
        restrictions.entries.map (·.1) ++ ["Properties", "PropertyList"] ++
          properties.entries.map (·.1)) := by
  have hsays : Fragment.Says methodScope
      [Fragment.ofText "RequestType" request.name,
        pairList "Restrictions" "RestrictionList" restrictions,
        pairList "Properties" "PropertyList" properties] _ :=
    says_field (by decide) request.name
      (says_pairList (by decide) (by decide) (plain_of_valid hvalid)
        (says_pairList (by decide) (by decide) hkeys .nil))
  refine .of_parse (parse_request hsays) ?_ ?_ ?_
  · rw [ofMethod_eq, child?_field, readBack_name, Fragment.field,
      listed?_tail (by decide), listed?_pairNode, Fragment.child?_tail _ _ (by decide), pairNode,
      Fragment.child?_tail _ _ (by decide), pairNode, Fragment.child?_tail _ _ (by decide)]
    rfl
  · rw [Fragment.field, listed?_tail (by decide), pairNode, listed?_tail (by decide),
      listed?_pairNode]
  · simp [Node.tagsOf, names_field, names_pairNode, Action.element]

/-- An Execute request is read as its statement and its properties. -/
theorem execute_readAs (statement : String) {properties : Properties} (hkeys : Plain properties) :
    ReadAs .execute (executeRequest statement properties) (executeTree statement properties)
      ⟨.execute, none, .empty, some (Fragment.readBack statement)⟩ (readBackPairs properties)
      (["Envelope", "Body", "Execute", "Command", "Statement", "Properties", "PropertyList"] ++
        properties.entries.map (·.1)) := by
  have hsays : Fragment.Says methodScope
      [.element "Command" [] [Fragment.ofText "Statement" statement],
        pairList "Properties" "PropertyList" properties] _ :=
    says_element (by decide) (says_field (by decide) statement .nil)
      (says_pairList (by decide) (by decide) hkeys .nil)
  refine .of_parse (parse_request hsays) ?_ ?_ ?_
  · rw [ofMethod_eq, Fragment.child?_tail _ _ (by decide), pairNode,
      Fragment.child?_tail _ _ (by decide), listed?_tail (by decide), listed?_tail (by decide),
      Fragment.child?_head _ _ (by decide), Option.bind_some, child?_field]
    rfl
  · rw [listed?_tail (by decide), listed?_pairNode]
  · simp [Node.tagsOf, Node.tags, names_field, names_pairNode, Action.element]

/-- Requests are read back as they were meant. A Discover request with restrictions that the
catalogue of requests allows, and an Execute request of any statement, are accepted and say exactly
the documented elements; the values in them are those of the caller. -/
theorem requests_read_back :
    (∀ (request : RequestType) (restrictions : Restrictions) (catalog info : Option String),
      request.validate restrictions = .ok () →
      ReadAs .discover
        (discoverRequest request restrictions (Properties.discover catalog info))
        (discoverTree request restrictions (Properties.discover catalog info))
        ⟨.discover, some request.name, readBackPairs restrictions, none⟩
        (readBackPairs (Properties.discover catalog info))
        (["Envelope", "Body", "Discover", "RequestType", "Restrictions", "RestrictionList"] ++
          restrictions.entries.map (·.1) ++ ["Properties", "PropertyList"] ++
            (Properties.discover catalog info).entries.map (·.1))) ∧
    ∀ (statement : String) (catalog info : Option String),
      ReadAs .execute (executeRequest statement (Properties.execute catalog info))
        (executeTree statement (Properties.execute catalog info))
        ⟨.execute, none, .empty, some (Fragment.readBack statement)⟩
        (readBackPairs (Properties.execute catalog info))
        (["Envelope", "Body", "Execute", "Command", "Statement", "Properties", "PropertyList"] ++
          (Properties.execute catalog info).entries.map (·.1)) :=
  ⟨fun _ _ catalog info hvalid => discover_readAs hvalid (plain_discover catalog info),
    fun statement catalog info => execute_readAs statement (plain_execute catalog info)⟩

/-- Markup in a value is text, a value may end what it stands in, and a blank one is lost. -/
theorem requests_read_back_cubes :
    RequestType.cubes.validate
        ⟨[("CATALOG_NAME", "</CATALOG_NAME>]]> & \"'"), ("CUBE_NAME", "\t")]⟩ = .ok () ∧
    RecordedRequest.ofBody .discover (discoverRequest .cubes
        ⟨[("CATALOG_NAME", "</CATALOG_NAME>]]> & \"'"), ("CUBE_NAME", "\t")]⟩
        (Properties.discover (some "<!--") none)) =
      ⟨.discover, some "MDSCHEMA_CUBES",
        ⟨[("CATALOG_NAME", "</CATALOG_NAME>]]> & \"'"), ("CUBE_NAME", "")]⟩, none⟩ :=
  ⟨rfl, (requests_read_back.1 .cubes _ (some "<!--") none rfl).recorded⟩

end CubeClient.Envelope
