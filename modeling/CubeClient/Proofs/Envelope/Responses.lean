import CubeClient.Field
import CubeClient.Proofs.Envelope.Classification
import CubeClient.Proofs.Envelope.Vocabulary
import Mathlib.Data.List.Forall2

/-!
# Responses are read back

A rowset that a server writes is read as its rows, and a fault as that fault, whatever texts they
hold. No value can make one of them look like the other, since values never become markup.
-/

namespace CubeClient.Envelope

open CubeClient.Text CubeClient.Xml Markup

/-! ## The tree of a response -/

/-- The tree of an envelope around the content of its body. -/
def responseTree (nodes : List Node) : Element :=
  ⟨⟨some soapNamespace, "Envelope", []⟩, [.element ⟨some soapNamespace, "Body", []⟩ nodes]⟩

/-- A row with its fields. -/
def rowElement (fields : List (String × String)) : Element :=
  ⟨⟨some rowsetNamespace, "row", []⟩,
    fields.map fun (name, value) => Fragment.field (some rowsetNamespace) name value⟩

/-- The root of a rowset. -/
def rowsetRoot (rows : List (List (String × String))) : Element :=
  ⟨⟨some rowsetNamespace, "root", []⟩, rows.map fun fields => (rowElement fields).toNode⟩

/-- Rows whose fields have plain names. -/
def PlainRows (rows : List (List (String × String))) : Prop :=
  ∀ fields ∈ rows, ∀ field ∈ fields, isPlainName field.1 = true

instance (rows : List (List (String × String))) : Decidable (PlainRows rows) :=
  inferInstanceAs (Decidable (∀ fields ∈ rows, ∀ field ∈ fields, isPlainName field.1 = true))

/-! ## Parsing a response -/

/-- A response is read as the envelope around its content. -/
theorem parse_response {content : Fragment} {nodes : List Node}
    (h : Fragment.Says soapScope [content] nodes) :
    Element.parse (Utf8.encode (response content)) = .ok (responseTree nodes) := by
  have hbody : Fragment.Says soapScope [.element bodyTag.name bodyTag.pairs [content]] _ :=
    .element bodyTag h .nil
  rw [read_body] at hbody
  have hparse := Fragment.parse_render .none responseEnvelope hbody
  rw [read_responseEnvelope, Surroundings.bytes_none, List.nil_append] at hparse
  rw [response]
  exact hparse

theorem rowsetScope_uri : (rowsetScope none).map Utf8.decodeLossy = some rowsetNamespace := by
  rw [rowsetScope_default, Option.map_some, Utf8.decodeLossy_encode]

/-- Rows with plain names are written as row elements with a field for each value. -/
theorem says_rows {rows : List (List (String × String))} (h : PlainRows rows) :
    Fragment.Says rowsetScope (rows.map fun fields => .element "row" [] (Fragment.ofPairs fields))
      (rows.map fun fields => (rowElement fields).toNode) := by
  induction rows with
  | nil => exact .nil
  | cons fields rest ih =>
    have hfields : Fragment.Says rowsetScope (Fragment.ofPairs fields) _ :=
      .ofPairs (h fields List.mem_cons_self)
    have hrest := ih fun other hother => h other (List.mem_cons_of_mem fields hother)
    have hrow := Fragment.Says.bare (show isPlainName "row" = true by decide) hfields hrest
    rw [rowsetScope_uri] at hrow
    exact hrow

theorem resultFragment_eq (content : List Fragment) :
    resultFragment "DiscoverResponse" rowsetNamespace content =
      .element discoverResponseTag.name discoverResponseTag.pairs
        [.element returnTag.name returnTag.pairs
          [.element rootTag.name rootTag.pairs content]] := by
  have hname : "cxmla:" ++ "DiscoverResponse" = discoverResponseTag.name := by decide
  rw [resultFragment, hname]
  rfl

/-- A rowset is read as the path from the response down to its rows. -/
theorem parse_rowset {rows : List (List (String × String))} (h : PlainRows rows) :
    Element.parse (Utf8.encode (rowset rows)) =
      .ok (responseTree [.element ⟨some methodNamespace, "DiscoverResponse", []⟩
        [.element ⟨some methodNamespace, "return", []⟩ [(rowsetRoot rows).toNode]]]) := by
  have hroot : Fragment.Says responseScope [.element rootTag.name rootTag.pairs
      (rows.map fun fields => .element "row" [] (Fragment.ofPairs fields))] _ :=
    .element rootTag (says_rows h) .nil
  have hreturn : Fragment.Says responseScope [.element returnTag.name returnTag.pairs _] _ :=
    .element returnTag hroot .nil
  have hresponse : Fragment.Says soapScope
      [.element discoverResponseTag.name discoverResponseTag.pairs _] _ :=
    .element discoverResponseTag hreturn .nil
  rw [read_root, read_return, read_discoverResponse, ← resultFragment_eq] at hresponse
  exact parse_response hresponse

/-- A fault is read as its code and its reason in the body. -/
theorem parse_fault (code reason : String) :
    Element.parse (Utf8.encode (fault code reason)) =
      .ok (responseTree [.element ⟨some soapNamespace, "Fault", []⟩
        [Fragment.field none "faultcode" code, Fragment.field none "faultstring" reason]]) := by
  have hfields : Fragment.Says soapScope
      [Fragment.ofText "faultcode" code, Fragment.ofText "faultstring" reason] _ :=
    .ofText (by decide) code (.ofText (by decide) reason .nil)
  have hfault : Fragment.Says soapScope [.element faultTag.name faultTag.pairs _] _ :=
    .element faultTag hfields .nil
  rw [read_fault, soapScope_default, Option.map_none] at hfault
  exact parse_response hfault

/-! ## Reading a response -/

theorem elements_rowsetRoot (rows : List (List (String × String))) :
    (rowsetRoot rows).elements = rows.map rowElement := by
  rw [Element.elements, rowsetRoot, List.filterMap_map]
  induction rows with
  | nil => rfl
  | cons fields rest ih => rw [List.filterMap_cons, List.map_cons, ← ih]; rfl

theorem elements_rowElement (fields : List (String × String)) :
    (rowElement fields).elements =
      fields.map fun (name, value) => Fragment.fieldElement (some rowsetNamespace) name value :=
  Fragment.elements_fields _ fields

/-- No row is taken for an exception. -/
theorem readException?_rowsetRoot (rows : List (List (String × String))) :
    readException? (rowsetRoot rows) = none := by
  have hnone : (rowsetRoot rows).child? none "Exception" = none := by
    rw [Element.child?, elements_rowsetRoot, List.find?_eq_none]
    intro row hrow
    obtain ⟨fields, -, rfl⟩ := List.mem_map.mp hrow
    show ¬ ("row" == "Exception" && true) = true
    decide
  rw [readException?, hnone]
  rfl

/-- An envelope is read by what its body holds. -/
theorem readResponse_responseTree (nodes : List Node) :
    readResponse (responseTree nodes) =
      match (⟨⟨some soapNamespace, "Body", []⟩, nodes⟩ : Element).child? (some soapNamespace)
          "Fault" with
      | some fault => .error (.fault (readFault fault))
      | none =>
        match payload ⟨⟨some soapNamespace, "Body", []⟩, nodes⟩ with
        | .error fault => .error (.protocol fault)
        | .ok root =>
          match readException? root with
          | some error => .error error
          | none => .ok root := by
  have hnamed : (responseTree nodes).isNamed (some soapNamespace) "Envelope" = true := by
    show ("Envelope" == "Envelope" && (false || some soapNamespace == some soapNamespace)) = true
    decide
  rw [readResponse, hnamed, responseTree, Fragment.child?_head _ _ (by decide)]
  rfl

/-- The payload is the root of what the response in the body returns. -/
theorem payload_rowset (rows : List (List (String × String))) :
    payload ⟨⟨some soapNamespace, "Body", []⟩,
      [.element ⟨some methodNamespace, "DiscoverResponse", []⟩
        [.element ⟨some methodNamespace, "return", []⟩ [(rowsetRoot rows).toNode]]]⟩ =
      .ok (rowsetRoot rows) := by
  refine payload_eq_ok_iff.mpr ⟨_,
    ⟨⟨some methodNamespace, "return", []⟩, [(rowsetRoot rows).toNode]⟩, rfl, ?_, ?_⟩
  · exact Element.child?_eq_some_iff.mp (Fragment.child?_head _ _ (by decide))
  · exact Element.child?_eq_some_iff.mp (Fragment.child?_head _ _ (by simp [rowsetRoot]))

/-- A rowset is answered with its root. -/
theorem parseResponse_rowset {rows : List (List (String × String))} (h : PlainRows rows) :
    parseResponse (Utf8.encode (rowset rows)) = .ok (rowsetRoot rows) := by
  rw [parseResponse, parse_rowset h]
  dsimp only
  rw [readResponse_responseTree, Fragment.child?_tail _ _ (by decide), payload_rowset]
  dsimp only
  rw [readException?_rowsetRoot]
  rfl

theorem readFault_fields (code reason : String) :
    readFault ⟨⟨some soapNamespace, "Fault", []⟩,
      [Fragment.field none "faultcode" code, Fragment.field none "faultstring" reason]⟩ =
      ⟨Fragment.readBack code, Fragment.readBack reason, none, none⟩ := by
  simp only [readFault, Fragment.field]
  rw [Fragment.child?_head _ _ (by decide), Fragment.child?_tail _ _ (by decide),
    Fragment.child?_head _ _ (by decide), Fragment.child?_tail _ _ (by decide),
    Fragment.child?_tail _ _ (by decide), Fragment.child?_tail _ _ (by decide),
    Fragment.child?_tail _ _ (by decide)]
  simp only [Option.map_some, Option.getD_some, Fragment.text_ofText]
  rfl

/-- A fault is answered with its code and its reason. -/
theorem parseResponse_fault (code reason : String) :
    parseResponse (Utf8.encode (fault code reason)) =
      .error (.fault ⟨Fragment.readBack code, Fragment.readBack reason, none, none⟩) := by
  rw [parseResponse, parse_fault]
  dsimp only
  rw [readResponse_responseTree, Fragment.child?_head _ _ (by decide)]
  dsimp only
  rw [readFault_fields]

/-! ## Reading a row -/

/-- A field that is written without elements stands for its text. -/
theorem string?_eq_text {row field : Element} {name : String}
    (h : row.child? none name = some field) (hflat : field.elements = []) :
    Field.string? row name = some field.text := by
  rw [Field.string?, h, Option.map_some, hflat]
  cases isBlank field.ownText <;> rfl

theorem elements_fieldElement (namespaceUri : Option String) (name value : String) :
    (Fragment.fieldElement namespaceUri name value).elements = [] := by
  rw [Fragment.fieldElement, Element.elements, Node.ofText]
  cases isBlank value <;> rfl

/-- The first field of a name is found in a row. -/
theorem child?_rowElement (fields : List (String × String)) (name : String) :
    (rowElement fields).child? none name = (fields.find? (·.1 == name)).map fun (name, value) =>
      Fragment.fieldElement (some rowsetNamespace) name value := by
  have hnamed : (Element.isNamed · none name) ∘ (fun (key, value) =>
      Fragment.fieldElement (some rowsetNamespace) key value) = fun field => field.1 == name := by
    funext field
    exact Bool.and_true _
  rw [Element.child?, elements_rowElement, List.find?_map, hnamed]

/-- A row says these fields, in this order, and answers the first of each name. -/
structure SaysFields (fields : List (String × String)) (row : Element) : Prop where
  named : row.name = "row"
  said : row.elements.map (fun field => (field.name, field.text)) =
    fields.map fun (name, value) => (name, Fragment.readBack value)
  string? : ∀ name, Field.string? row name =
    (fields.find? (·.1 == name)).map fun (_, value) => Fragment.readBack value

/-- A row says its fields. -/
theorem rowElement_says (fields : List (String × String)) :
    SaysFields fields (rowElement fields) where
  named := rfl
  said := by
    rw [elements_rowElement, List.map_map]
    exact List.map_congr_left fun field _ =>
      congrArg (field.1, ·) (Fragment.text_ofText _ field.2)
  string? := by
    intro name
    have hchild := child?_rowElement fields name
    cases hfind : fields.find? (·.1 == name) with
    | none =>
      rw [hfind, Option.map_none] at hchild
      rw [Field.string?, hchild]
      rfl
    | some field =>
      rw [hfind, Option.map_some] at hchild
      rw [string?_eq_text hchild (elements_fieldElement _ _ _)]
      exact congrArg some (Fragment.text_ofText _ field.2)

/-- Responses are read back as they were written. A rowset whose fields have plain names is answered
as its rows, in order, and a fault as that fault, whatever texts they hold. -/
theorem responses_read_back :
    (∀ rows, PlainRows rows →
      parseResponse (Utf8.encode (rowset rows)) = .ok (rowsetRoot rows) ∧
      List.Forall₂ SaysFields rows (rowsetRoot rows).elements) ∧
    ∀ code reason, parseResponse (Utf8.encode (fault code reason)) =
      .error (.fault ⟨Fragment.readBack code, Fragment.readBack reason, none, none⟩) := by
  refine ⟨fun rows h => ⟨parseResponse_rowset h, ?_⟩, parseResponse_fault⟩
  rw [elements_rowsetRoot, List.forall₂_map_right_iff, List.forall₂_same]
  exact fun fields _ => rowElement_says fields

/-- Values that imitate the end of a response or a fault are values. -/
theorem responses_read_back_markup :
    PlainRows [[("NAME", "</row></root>"), ("NAME", "x")], [("TEXT", "<SOAP-ENV:Fault/>")], []] ∧
    parseResponse (Utf8.encode (rowset
        [[("NAME", "</row></root>"), ("NAME", "x")], [("TEXT", "<SOAP-ENV:Fault/>")], []])) =
      .ok (rowsetRoot
        [[("NAME", "</row></root>"), ("NAME", "x")], [("TEXT", "<SOAP-ENV:Fault/>")], []]) :=
  have hplain : PlainRows
      [[("NAME", "</row></root>"), ("NAME", "x")], [("TEXT", "<SOAP-ENV:Fault/>")], []] := by
    unfold PlainRows
    decide
  ⟨hplain, (responses_read_back.1 _ hplain).1⟩

end CubeClient.Envelope
