import CubeClient.Proofs.Xml.Places
import CubeClient.Xml.Fragment

/-!
# Reading what has been written

A rendered fragment is a spelled document, so it is read as the tree it was written for
(`Fragment.parse_render`). `Says` is built up the way fragments are: nothing, a text, an element in
front of what says more. Names and declarations are checked once, in a `WrittenTag`; texts need no
check, because they are escaped.
-/

namespace CubeClient.Xml

open CubeClient.Text Markup

/-! ## Escaped text -/

theorem ne_of_mem_escapeChar {x c : Char} (h : x ∈ escapeChar c) : x ≠ '<' ∧ x ≠ '"' := by
  unfold escapeChar at h
  split at h
  case h_6 hlt hgt hamp hapos hquot =>
    obtain rfl := List.mem_singleton.mp h
    exact ⟨hlt, hquot⟩
  all_goals
    simp only [List.mem_cons, List.not_mem_nil, or_false] at h
    rcases h with rfl | rfl | rfl | rfl | rfl | rfl <;> decide

/-- Neither the byte that begins markup nor the quote that ends a value is in escaped text. -/
theorem not_mem_encode_escape (s : String) :
    lessThan ∉ Utf8.encode (escape s) ∧ doubleQuote ∉ Utf8.encode (escape s) := by
  have hall : ∀ b ∈ Utf8.encode (escape s), b ≠ lessThan ∧ b ≠ doubleQuote := by
    refine Utf8.forall_mem_encodeList ?_ ?_
    · intro b hb
      refine ⟨?_, ?_⟩ <;> rintro rfl <;> exact absurd hb (by decide)
    · intro c hc hascii
      rw [escape, String.toList_ofList] at hc
      obtain ⟨d, -, hd⟩ := List.mem_flatMap.mp hc
      have hne := ne_of_mem_escapeChar hd
      have hbyte : ∀ x : Char, x.toNat < 0x80 → c.toNat.toUInt8 = x.toNat.toUInt8 → c = x := by
        intro x hx heq
        have hnat := congrArg UInt8.toNat heq
        rw [Utf8.toNat_toUInt8 (by omega), Utf8.toNat_toUInt8 (by omega)] at hnat
        exact Char.toNat_inj.mp hnat
      exact ⟨fun h => hne.1 (hbyte '<' (by decide) h), fun h => hne.2 (hbyte '"' (by decide) h)⟩
  exact ⟨fun h => (hall _ h).1 rfl, fun h => (hall _ h).2 rfl⟩

/-- An escaped text is read back. -/
theorem unescape?_escape (s : String) : unescape? (escape s) = some s := by
  rw [unescape?, escape, String.toList_ofList, unescapeList?_escapeList, Option.map_some,
    String.ofList_toList]

/-- Text as it is written. -/
def CharData.written (value : String) : CharData where
  raw := Utf8.encode (escape value)
  value := value
  inert := (not_mem_encode_escape value).1
  reads := Event.decodeText_encode (unescape?_escape value)

/-- No text. -/
def CharData.none : CharData where
  raw := []
  value := ""
  inert := List.not_mem_nil
  reads := Event.decodeText_nil

/-! ## Names -/

/-- An ASCII letter or an underscore, and after it letters, digits and underscores. -/
def isPlainName (name : String) : Bool :=
  match name.toList with
  | [] => false
  | c :: rest => (c.isAlpha || c == '_') && rest.all fun d => d.isAlphanum || d == '_'

theorem toNat_lt_of_plain {c : Char} (h : (c.isAlphanum || c == '_') = true) : c.toNat < 0x80 := by
  unfold Char.isAlphanum Char.isAlpha Char.isUpper Char.isLower Char.isDigit at h
  simp only [Bool.or_eq_true, Bool.and_eq_true, decide_eq_true_eq, beq_iff_eq,
    UInt32.le_iff_toNat_le, ge_iff_le] at h
  rcases h with ((⟨-, h⟩ | ⟨-, h⟩) | ⟨-, h⟩) | rfl
  · exact Nat.lt_of_le_of_lt h (by decide)
  · exact Nat.lt_of_le_of_lt h (by decide)
  · exact Nat.lt_of_le_of_lt h (by decide)
  · decide

theorem isNameByte_of_plain {c : Char} (h : (c.isAlphanum || c == '_') = true) :
    isNameByte c.toNat.toUInt8 = true := by
  have hall : ∀ n < 0x80, ((Char.ofNat n).isAlphanum || Char.ofNat n == '_') = true →
      isNameByte n.toUInt8 = true := by
    decide
  refine hall c.toNat (toNat_lt_of_plain h) ?_
  rw [Char.ofNat_toNat]
  exact h

/-- Every byte of a character that is not ASCII may stand in a name. -/
theorem isNameByte_of_high {b : UInt8} (h : 0x80 ≤ b) : isNameByte b = true := by
  have hall : ∀ k < 0x80, isNameByte (0x80 + k).toUInt8 = true := by decide
  have hlow : 0x80 ≤ b.toNat := UInt8.le_iff_toNat_le.mp h
  have hhigh : b.toNat < 0x100 := b.toNat_lt
  have hb := hall (b.toNat - 0x80) (by omega)
  rw [Nat.add_sub_cancel' hlow] at hb
  rwa [show b.toNat.toUInt8 = b from UInt8.ofNat_toNat] at hb

theorem plain_of_mem {name : String} (h : isPlainName name = true) :
    ∀ c ∈ name.toList, (c.isAlphanum || c == '_') = true := by
  unfold isPlainName at h
  split at h
  · cases h
  · rename_i c rest heq
    rw [Bool.and_eq_true, List.all_eq_true] at h
    intro d hd
    rw [heq] at hd
    rcases List.mem_cons.mp hd with rfl | hd
    · have hfirst := h.1
      rw [Bool.or_eq_true] at hfirst ⊢
      rw [Char.isAlphanum]
      rcases hfirst with hletter | hunderscore
      · exact .inl (by rw [hletter]; rfl)
      · exact .inr hunderscore
    · exact h.2 d hd

theorem encode_ne_nil {s : String} (h : s.toList ≠ []) : Utf8.encode s ≠ [] := by
  obtain ⟨c, rest, hs⟩ := List.exists_cons_of_ne_nil h
  obtain ⟨b, tail, hb, -⟩ := Utf8.next_encodeChar c []
  rw [Utf8.encode, hs, Utf8.encodeList, List.flatMap_cons, hb]
  exact List.cons_ne_nil _ _

/-- A plain name. -/
def NCName.plain (name : String) (h : isPlainName name = true) : NCName where
  bytes := Utf8.encode name
  ne_nil := by
    refine encode_ne_nil fun hnil => ?_
    rw [isPlainName, hnil] at h
    cases h
  isName := by
    refine Utf8.forall_mem_encodeList (fun b hb => isNameByte_of_high hb) fun c hc _ => ?_
    exact isNameByte_of_plain (plain_of_mem h c hc)

/-! ## Tags -/

/-- An attribute that is written, and what it assigns. -/
structure WrittenAttribute where
  key : String
  value : String
  assignment : Assignment
  key_eq : Utf8.encode key = assignment.name.bytes
  value_eq : Utf8.encode (escape value) = assignment.raw

/-- A tag that is written. -/
structure WrittenTag where
  name : String
  spelledName : SpelledName
  attributes : List WrittenAttribute
  name_eq : Utf8.encode name = spelledName.bytes
  distinct : (attributes.map (·.assignment.name.bytes)).Nodup

/-- A written attribute as it is spelled. -/
def WrittenAttribute.spell (a : WrittenAttribute) : SpelledAttribute where
  before := ⟨ascii " ", List.all_eq_true.mp (by decide)⟩
  assignment := a.assignment
  beforeEquals := .none
  afterEquals := .none
  quote := doubleQuote
  apart := by decide
  isQuote := .inl rfl
  closed := a.value_eq ▸ (not_mem_encode_escape a.value).2

theorem WrittenAttribute.encode_eq (a : WrittenAttribute) :
    Utf8.encode (" " ++ a.key ++ "=\"" ++ escape a.value ++ "\"") = a.spell.bytes := by
  simp only [Utf8.encode_append, a.key_eq, a.value_eq]
  simp only [List.append_assoc]
  rfl

namespace WrittenTag

/-- A written tag as it is spelled. -/
def spell (tag : WrittenTag) : SpelledTag where
  name := tag.spelledName
  attributes := tag.attributes.map (·.spell)
  trailing := .none
  distinct := by
    rw [List.map_map]
    exact tag.distinct

/-- The names and values of the attributes. -/
def pairs (tag : WrittenTag) : List (String × String) :=
  tag.attributes.map fun a => (a.key, a.value)

/-- The bytes of a start tag are its content between angle brackets. -/
theorem encode_startTag (tag : WrittenTag) :
    Utf8.encode (Fragment.startTag tag.name tag.pairs) =
      ascii "<" ++ (tag.spell.content ++ ascii ">") := by
  have hpairs : Fragment.startTag tag.name tag.pairs = "<" ++ tag.name ++
      String.join (tag.attributes.map fun a => " " ++ a.key ++ "=\"" ++ escape a.value ++ "\"") ++
        ">" := by
    rw [Fragment.startTag, pairs, List.map_map]
    rfl
  have hattributes : Utf8.encode (String.join (tag.attributes.map fun a =>
      " " ++ a.key ++ "=\"" ++ escape a.value ++ "\"")) =
        (tag.attributes.map (·.spell)).flatMap SpelledAttribute.bytes := by
    induction tag.attributes with
    | nil => rfl
    | cons a rest ih =>
      rw [List.map_cons, String.join_cons, Utf8.encode_append, a.encode_eq, ih]
      rfl
  rw [hpairs]
  simp only [Utf8.encode_append, hattributes, tag.name_eq]
  simp only [SpelledTag.content, List.append_assoc]
  rfl

theorem encode_endTag (tag : WrittenTag) :
    Utf8.encode (Fragment.endTag tag.name) =
      ascii "</" ++ (tag.spell.name.bytes ++ ascii ">") := by
  rw [Fragment.endTag]
  simp only [Utf8.encode_append, tag.name_eq, List.append_assoc]
  rfl

/-- A tag without attributes. -/
def bare (name : String) (h : isPlainName name = true) : WrittenTag where
  name := name
  spelledName := ⟨none, .plain name h⟩
  attributes := []
  name_eq := rfl
  distinct := List.nodup_nil

/-- A tag without attributes is read in the default namespace. -/
theorem read_bare (name : String) (h : isPlainName name = true) (scope : NamespaceScope) :
    (bare name h).spell.read scope = ⟨(scope none).map Utf8.decodeLossy, name, []⟩ := by
  show (⟨_, Utf8.decodeLossy (Utf8.encode name), _⟩ : Tag) = _
  rw [Utf8.decodeLossy_encode]
  rfl

end WrittenTag

/-! ## Fragments -/

namespace Fragment

/-- Rendered, fragments are content that says these nodes. -/
def Says (scope : NamespaceScope) (fragments : List Fragment) (nodes : List Node) : Prop :=
  ∃ content : Content, content.bytes = Utf8.encode (renderAll fragments) ∧
    content.nodes scope = nodes

variable {scope : NamespaceScope} {children rest : List Fragment} {nodes more : List Node}

theorem Says.nil : Says scope [] [] := by
  refine ⟨.done .none, rfl, ?_⟩
  show Node.ofText "" = []
  rfl

theorem Says.text (value : String) : Says scope [.text value] (Node.ofText value) := by
  refine ⟨.done (.written value), ?_, rfl⟩
  rw [renderAll, renderAll, render, Utf8.encode_append]
  exact (List.append_nil _).symm

/-- An element says what its tag and its children do. -/
theorem Says.element (tag : WrittenTag) (hchildren : Says (scope.enter tag.spell) children nodes)
    (hrest : Says scope rest more) :
    Says scope (.element tag.name tag.pairs children :: rest)
      (.element (tag.spell.read scope) nodes :: more) := by
  obtain ⟨inner, hinner, rfl⟩ := hchildren
  obtain ⟨after, hafter, rfl⟩ := hrest
  refine ⟨.element .none tag.spell inner .none after, ?_, rfl⟩
  rw [renderAll, render]
  simp only [Utf8.encode_append, tag.encode_startTag, tag.encode_endTag, ← hinner, ← hafter,
    List.append_assoc]
  rfl

/-- A field holds its text, unless it is blank. -/
def field (namespaceUri : Option String) (name value : String) : Node :=
  .element ⟨namespaceUri, name, []⟩ (Node.ofText value)

theorem Says.bare {name : String} (h : isPlainName name = true)
    (hchildren : Says scope children nodes) (hrest : Says scope rest more) :
    Says scope (.element name [] children :: rest)
      (.element ⟨(scope none).map Utf8.decodeLossy, name, []⟩ nodes :: more) := by
  have helement := Says.element (.bare name h) hchildren hrest
  rw [WrittenTag.read_bare] at helement
  exact helement

/-- A text in an element is read as a field. -/
theorem Says.ofText {name : String} (h : isPlainName name = true) (value : String)
    (hrest : Says scope rest more) :
    Says scope (.ofText name value :: rest)
      (field ((scope none).map Utf8.decodeLossy) name value :: more) :=
  .bare h (.text value) hrest

/-- Pairs are read as fields, in order. -/
theorem Says.ofPairs {pairs : List (String × String)}
    (h : ∀ pair ∈ pairs, isPlainName pair.1 = true) :
    Says scope (ofPairs pairs)
      (pairs.map fun (name, value) => field ((scope none).map Utf8.decodeLossy) name value) := by
  induction pairs with
  | nil => exact .nil
  | cons pair pairs ih =>
    have hmore := ih fun other hother => h other (List.mem_cons_of_mem pair hother)
    exact .ofText (h pair List.mem_cons_self) pair.2 hmore

/-- A rendered fragment is read as the tree that it was written for, also behind a declaration. -/
theorem parse_render (before : Surroundings) (tag : WrittenTag)
    (h : Says (NamespaceScope.outermost.enter tag.spell) children nodes) :
    Element.parse (before.bytes ++ Utf8.encode (element tag.name tag.pairs children).render) =
      .ok ⟨tag.spell.read .outermost, nodes⟩ := by
  obtain ⟨content, hcontent, rfl⟩ := h
  let document : SpelledDocument :=
    ⟨false, before, .element tag.spell content .none, .none⟩
  have hbytes : document.bytes =
      before.bytes ++ Utf8.encode (element tag.name tag.pairs children).render := by
    rw [render]
    simp only [Utf8.encode_append, tag.encode_startTag, tag.encode_endTag, ← hcontent]
    simp [document, SpelledDocument.bytes, SpelledElement.bytes]
  rw [← hbytes]
  exact Element.parse_bytes document

/-! ## Children -/

section

variable {tag outer : Tag} {namespaceUri : Option String} {name : String}

theorem child?_head (children rest : List Node)
    (h : (tag.name == name && (namespaceUri.isNone || tag.namespaceUri == namespaceUri)) = true) :
    (⟨outer, .element tag children :: rest⟩ : Element).child? namespaceUri name =
      some ⟨tag, children⟩ := by
  rw [Element.child?, Element.elements, List.filterMap_cons]
  exact List.find?_cons_of_pos h

theorem child?_tail (children rest : List Node)
    (h : (tag.name == name && (namespaceUri.isNone || tag.namespaceUri == namespaceUri)) = false) :
    (⟨outer, .element tag children :: rest⟩ : Element).child? namespaceUri name =
      (⟨outer, rest⟩ : Element).child? namespaceUri name := by
  rw [Element.child?, Element.elements, List.filterMap_cons]
  exact List.find?_cons_of_neg (ne_true_of_eq_false h)

end

/-! ## Fields -/

/-- A value as it is read back: white space alone is lost. -/
def readBack (value : String) : String :=
  if isBlank value then "" else value

/-- A field as an element. -/
def fieldElement (namespaceUri : Option String) (name value : String) : Element :=
  ⟨⟨namespaceUri, name, []⟩, Node.ofText value⟩

/-- The text of a field is what is read back of its value. -/
theorem text_ofText (tag : Tag) (value : String) :
    (⟨tag, Node.ofText value⟩ : Element).text = readBack value := by
  unfold Element.text Node.ofText readBack
  split
  · rfl
  · simp [Node.textsOf, Node.texts, String.join]

variable (namespaceUri : Option String) (pairs : List (String × String))

theorem elements_fields :
    (pairs.map fun (name, value) => field namespaceUri name value).filterMap Node.element? =
      pairs.map fun (name, value) => fieldElement namespaceUri name value := by
  rw [List.filterMap_map]
  induction pairs with
  | nil => rfl
  | cons pair rest ih => rw [List.filterMap_cons, List.map_cons, ← ih]; rfl

theorem tags_fields :
    Node.tagsOf (pairs.map fun (name, value) => field namespaceUri name value) =
      pairs.map fun (name, _) => ⟨namespaceUri, name, []⟩ := by
  induction pairs with
  | nil => rfl
  | cons pair rest ih =>
    show ⟨namespaceUri, pair.1, []⟩ :: (Node.tagsOf (Node.ofText pair.2) ++ Node.tagsOf _) = _
    rw [Node.tagsOf_ofText, ih]
    rfl

end Fragment

end CubeClient.Xml
