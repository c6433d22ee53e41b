import CubeClient.Proofs.Xml.Nesting
import CubeClient.Proofs.Xml.Spelling

/-!
# Character data

A value can be cut: a comment or a CDATA section in it makes several pieces of text. Each piece is
judged by itself, and one that is white space alone is dropped wherever it stands, between elements
as within a value. What is kept is said by two trees next to each other: the one that is read, and
the document as it is written, with all its text (`Element.parse_keeps_text`). The first is the
second without blank texts (`WrittenAs.kept_eq`).
-/

namespace CubeClient.Xml

open CubeClient.Text

/-! ## Nodes without white space -/

namespace Node

mutual

/-- The node as it is kept: texts that are white space alone are dropped, wherever they stand. -/
def withoutBlanks : Node → List Node
  | .text content => ofText content
  | .element tag children => [.element tag (withoutBlanksOf children)]

/-- Nodes as they are kept. -/
def withoutBlanksOf : List Node → List Node
  | [] => []
  | node :: rest => withoutBlanks node ++ withoutBlanksOf rest

end

mutual

/-- The element that a node is and all elements inside it, in document order. -/
def elements : Node → List Element
  | .text _ => []
  | .element tag children => ⟨tag, children⟩ :: elementsOf children

/-- The elements of some nodes, in document order. -/
def elementsOf : List Node → List Element
  | [] => []
  | node :: rest => elements node ++ elementsOf rest

end

theorem withoutBlanksOf_append (nodes more : List Node) :
    withoutBlanksOf (nodes ++ more) = withoutBlanksOf nodes ++ withoutBlanksOf more := by
  induction nodes with
  | nil => rfl
  | cons node rest ih =>
    rw [List.cons_append, withoutBlanksOf, withoutBlanksOf, ih, List.append_assoc]

theorem elementsOf_append (nodes more : List Node) :
    elementsOf (nodes ++ more) = elementsOf nodes ++ elementsOf more := by
  induction nodes with
  | nil => rfl
  | cons node rest ih => rw [List.cons_append, elementsOf, elementsOf, ih, List.append_assoc]

end Node

/-- The element as it is kept. -/
def Element.withoutBlanks (e : Element) : Element :=
  ⟨e.tag, Node.withoutBlanksOf e.children⟩

/-- The element and all elements inside it, in document order. -/
def Element.everyElement (e : Element) : List Element :=
  e.toNode.elements

/-- The pieces of text directly inside an element. -/
def Element.pieces (e : Element) : List String :=
  e.children.filterMap Node.text?

namespace Node

mutual

/-- A node without its blank texts has all events but those. -/
theorem eventsOf_withoutBlanks : (node : Node) →
    eventsOf node.withoutBlanks = node.events.filter (!·.isBlankText)
  | .text content => by
    cases hblank : isBlank content <;>
      simp [withoutBlanks, ofText, hblank, events, eventsOf, Event.isBlankText]
  | .element tag children => by
    have hchildren := eventsOf_withoutBlanksOf children
    simp [withoutBlanks, eventsOf, events, hchildren, Event.isBlankText]

theorem eventsOf_withoutBlanksOf : (nodes : List Node) →
    eventsOf (withoutBlanksOf nodes) = (eventsOf nodes).filter (!·.isBlankText)
  | [] => rfl
  | node :: rest => by
    rw [withoutBlanksOf, eventsOf_append, eventsOf, List.filter_append,
      eventsOf_withoutBlanks node, eventsOf_withoutBlanksOf rest]

end

mutual

/-- Dropping blank texts drops no element. -/
theorem elementsOf_withoutBlanks : (node : Node) →
    elementsOf node.withoutBlanks = node.elements.map Element.withoutBlanks
  | .text content => by
    cases hblank : isBlank content <;> simp [withoutBlanks, ofText, hblank, elements, elementsOf]
  | .element tag children => by
    have hchildren := elementsOf_withoutBlanksOf children
    simp [withoutBlanks, elementsOf, elements, hchildren, Element.withoutBlanks]

theorem elementsOf_withoutBlanksOf : (nodes : List Node) →
    elementsOf (withoutBlanksOf nodes) = (elementsOf nodes).map Element.withoutBlanks
  | [] => rfl
  | node :: rest => by
    rw [withoutBlanksOf, elementsOf_append, elementsOf, List.map_append,
      elementsOf_withoutBlanks node, elementsOf_withoutBlanksOf rest]

end

end Node

namespace Element

/-- The pieces that are left of an element's text are those that are not blank. -/
theorem pieces_withoutBlanks (e : Element) :
    e.withoutBlanks.pieces = e.pieces.filter (!isBlank ·) := by
  obtain ⟨tag, children⟩ := e
  show (Node.withoutBlanksOf children).filterMap Node.text? =
    (children.filterMap Node.text?).filter (!isBlank ·)
  induction children with
  | nil => rfl
  | cons node rest ih =>
    rw [Node.withoutBlanksOf, List.filterMap_append, ih]
    cases node with
    | text content =>
      cases hblank : isBlank content <;>
        simp [Node.withoutBlanks, Node.ofText, hblank, Node.text?]
    | element inner children => rfl

theorem elements_withoutBlanks (e : Element) :
    e.withoutBlanks.elements = e.elements.map withoutBlanks := by
  obtain ⟨tag, children⟩ := e
  show (Node.withoutBlanksOf children).filterMap Node.element? =
    (children.filterMap Node.element?).map withoutBlanks
  induction children with
  | nil => rfl
  | cons node rest ih =>
    rw [Node.withoutBlanksOf, List.filterMap_append, ih]
    cases node with
    | text content =>
      cases hblank : isBlank content <;>
        simp [Node.withoutBlanks, Node.ofText, hblank, List.filterMap_cons, Node.element?]
    | element inner children => rfl

end Element

/-! ## Pieces of text -/

theorem length_join_filter_le (p : String → Bool) (pieces : List String) :
    (String.join (pieces.filter p)).length ≤ (String.join pieces).length := by
  induction pieces with
  | nil => exact Nat.le_refl _
  | cons piece pieces ih =>
    rw [List.filter_cons, String.join_cons, String.length_append]
    split
    · rw [String.join_cons, String.length_append]
      omega
    · omega

/-- White space dropped between some pieces changes the text they make, unless there is none. -/
theorem join_filter_eq_iff {pieces : List String} :
    String.join (pieces.filter (!isBlank ·)) = String.join pieces ↔
      ∀ piece ∈ pieces, isBlank piece = true → piece = "" := by
  induction pieces with
  | nil => simp
  | cons piece pieces ih =>
    rw [List.forall_mem_cons, ← ih, String.join_cons]
    cases hblank : isBlank piece with
    | false =>
      rw [List.filter_cons_of_pos (by simp [hblank]), String.join_cons]
      simp
    | true =>
      rw [List.filter_cons_of_neg (by simp [hblank])]
      constructor
      · intro h
        have hle := length_join_filter_le (!isBlank ·) pieces
        have hlength := congrArg String.length h
        rw [String.length_append] at hlength
        have hempty : piece = "" := String.length_eq_zero_iff.mp (by omega)
        subst hempty
        exact ⟨fun _ => rfl, h.trans (String.empty_append)⟩
      · rintro ⟨hempty, h⟩
        rw [hempty rfl, h, String.empty_append]

/-! ## The document as it is written -/

/-- The element is all that the events say, text for text, but for white space around it. -/
def WrittenAs (events : List Event) (document : Element) : Prop :=
  ∃ before after, events.flatMap Event.plain = before ++ document.events ++ after ∧
    ∀ event ∈ before ++ after, event.isBlankText = true

theorem forall_isBlankText_iff {events : List Event} :
    (∀ event ∈ events, event.isBlankText = true) ↔ events.filter (!·.isBlankText) = [] := by
  simp

/-- What is kept of a document's events are those of the document without blank texts. -/
theorem WrittenAs.kept_eq {events : List Event} {document : Element}
    (h : WrittenAs events document) : Event.kept events = document.withoutBlanks.events := by
  obtain ⟨before, after, hplain, hblank⟩ := h
  obtain ⟨hbefore, hafter⟩ := List.forall_mem_append.mp hblank
  have hdocument : document.withoutBlanks.events = document.events.filter (!·.isBlankText) := by
    rw [Element.events, Element.events, ← Node.eventsOf_withoutBlanks]
    exact (List.append_nil _).symm
  rw [Event.kept, hplain, List.filter_append, List.filter_append,
    forall_isBlankText_iff.mp hbefore, forall_isBlankText_iff.mp hafter, List.nil_append,
    List.append_nil, hdocument]

namespace Node

/-- Blank texts alone are nodes of which nothing is left. -/
theorem exists_blanks {raw : List Event} (h : ∀ event ∈ raw, event.isBlankText = true) :
    ∃ nodes, raw = eventsOf nodes ∧ withoutBlanksOf nodes = [] := by
  induction raw with
  | nil => exact ⟨[], rfl, rfl⟩
  | cons event raw ih =>
    obtain ⟨nodes, rfl, hnodes⟩ := ih fun e he => h e (List.mem_cons_of_mem _ he)
    have hevent := h event List.mem_cons_self
    cases event with
    | text content =>
      refine ⟨.text content :: nodes, rfl, ?_⟩
      have hblank : isBlank content = true := hevent
      rw [withoutBlanksOf, withoutBlanks, ofText, if_pos hblank, hnodes]
      rfl
    | start _ | empty _ | stop | cdata _ | ignored => cases hevent

mutual

/-- Events of which a node is kept are that node as it was written, between blank texts. -/
theorem exists_written : (node : Node) → ∀ {raw : List Event},
    raw.filter (!·.isBlankText) = node.events →
      ∃ before written after, raw = before ++ events written ++ after ∧
        (∀ event ∈ before ++ after, event.isBlankText = true) ∧ written.withoutBlanks = [node]
  | .text content, raw, h => by
    obtain ⟨before, after, rfl, hbefore, hkept, hafter⟩ := List.filter_eq_cons_iff.mp h
    have hblank : isBlank content = false := by simpa [Event.isBlankText] using hkept
    refine ⟨before, .text content, after, by simp [events], ?_, ?_⟩
    · exact List.forall_mem_append.mpr
        ⟨by simpa using hbefore, forall_isBlankText_iff.mpr hafter⟩
    · rw [withoutBlanks, ofText, if_neg (ne_true_of_eq_false hblank)]
  | .element tag children, raw, h => by
    rw [events] at h
    obtain ⟨before, inside, rfl, hbefore, -, hinside⟩ := List.filter_eq_cons_iff.mp h
    obtain ⟨content, ending, rfl, hcontent, hending⟩ := List.filter_eq_append_iff.mp hinside
    obtain ⟨blanks, after, rfl, hblanks, -, hafter⟩ := List.filter_eq_cons_iff.mp hending
    obtain ⟨written, rfl, hwritten⟩ := exists_writtenOf children hcontent
    have hblank : ∀ event ∈ blanks, event.isBlankText = true := by simpa using hblanks
    obtain ⟨padding, rfl, hpadding⟩ := exists_blanks hblank
    refine ⟨before, .element tag (written ++ padding), after, ?_, ?_, ?_⟩
    · simp [events, eventsOf_append]
    · exact List.forall_mem_append.mpr
        ⟨by simpa using hbefore, forall_isBlankText_iff.mpr hafter⟩
    · rw [withoutBlanks, withoutBlanksOf_append, hwritten, hpadding, List.append_nil]

theorem exists_writtenOf : (nodes : List Node) → ∀ {raw : List Event},
    raw.filter (!·.isBlankText) = eventsOf nodes →
      ∃ written, raw = eventsOf written ∧ withoutBlanksOf written = nodes
  | [], raw, h => by
    exact exists_blanks (forall_isBlankText_iff.mpr h)
  | node :: rest, raw, h => by
    rw [eventsOf] at h
    obtain ⟨front, back, rfl, hfront, hback⟩ := List.filter_eq_append_iff.mp h
    obtain ⟨before, written, after, rfl, hblank, hwritten⟩ := exists_written node hfront
    obtain ⟨more, rfl, hmore⟩ := exists_writtenOf rest hback
    obtain ⟨hbefore, hafter⟩ := List.forall_mem_append.mp hblank
    obtain ⟨leading, rfl, hleading⟩ := exists_blanks hbefore
    obtain ⟨trailing, rfl, htrailing⟩ := exists_blanks hafter
    refine ⟨leading ++ written :: (trailing ++ more), ?_, ?_⟩
    · simp [eventsOf_append, eventsOf]
    · rw [withoutBlanksOf_append, withoutBlanksOf, withoutBlanksOf_append, hleading, hwritten,
        htrailing, hmore]
      rfl

end

end Node

/-- Every tree that is read has been written as some document. -/
theorem exists_writtenAs {events : List Event} {t : Element}
    (h : Event.kept events = t.events) : ∃ document, WrittenAs events document := by
  obtain ⟨before, written, after, hplain, hblank, hwritten⟩ := Node.exists_written t.toNode h
  cases written with
  | text content =>
    rw [Node.withoutBlanks, Node.ofText] at hwritten
    split at hwritten <;> cases hwritten
  | element tag children => exact ⟨⟨tag, children⟩, before, after, hplain, hblank⟩

/-! ## What the reader keeps of it -/

namespace Element

/-- An element of the tree next to the same element as it is written. Their child elements have the
same tags, and white space in pieces of its own is what the text lacks. -/
structure KeptFrom (e source : Element) : Prop where
  tag : e.tag = source.tag
  elements : e.elements.map (·.tag) = source.elements.map (·.tag)
  ownText : e.ownText = String.join (source.pieces.filter (!isBlank ·))
  verbatim : e.ownText = source.ownText ↔
    ∀ piece ∈ source.pieces, isBlank piece = true → piece = ""

/-- The text of an element is kept but for its blank pieces. -/
theorem keptFrom_withoutBlanks (e : Element) : KeptFrom e.withoutBlanks e := by
  have htext : e.withoutBlanks.ownText = String.join (e.pieces.filter (!isBlank ·)) :=
    congrArg String.join e.pieces_withoutBlanks
  refine ⟨rfl, ?_, htext, ?_⟩
  · rw [elements_withoutBlanks, List.map_map]
    rfl
  · rw [htext]
    exact join_filter_eq_iff

/-- Dropping blank texts goes through all elements of a document. -/
theorem everyElement_withoutBlanks (e : Element) :
    e.withoutBlanks.everyElement = e.everyElement.map withoutBlanks := by
  have helements := Node.elementsOf_withoutBlanks e.toNode
  rw [everyElement, everyElement, ← helements]
  exact (List.append_nil _).symm

/-- The events of a document that is accepted are written as an element with all its text, and the
elements of that are those of the tree, each with its pieces of text but the blank ones. So the text
of an element, whether it has child elements or not, is kept verbatim exactly if none of its pieces
is white space alone. -/
theorem parse_keeps_text {bytes : Bytes} {t : Element} (h : parse bytes = .ok t) :
    (∃ document, WrittenAs (Event.ofBytes bytes).1 document) ∧
    ∀ document, WrittenAs (Event.ofBytes bytes).1 document →
      List.Forall₂ KeptFrom t.everyElement document.everyElement := by
  obtain ⟨events, hbytes, hevents⟩ := parse_eq_ok_iff.mp h
  rw [hbytes]
  refine ⟨exists_writtenAs (ofEvents_eq_ok_iff.mp hevents), fun document hdocument => ?_⟩
  have hread : ofEvents events = .ok document.withoutBlanks :=
    ofEvents_eq_ok_iff.mpr hdocument.kept_eq
  rw [hevents] at hread
  cases hread
  rw [everyElement_withoutBlanks, List.forall₂_map_left_iff]
  exact List.forall₂_same.mpr fun e _ => e.keptFrom_withoutBlanks

/-- A value in three pieces: a text, white space between a comment and a CDATA section, and the
section. -/
def cutValue : Bytes :=
  Markup.ascii "<v>a<!----> <![CDATA[b]]></v>"

def cutValueRead : Element :=
  ⟨⟨none, "v", []⟩, [.text "a", .text "b"]⟩

def cutValueWritten : Element :=
  ⟨⟨none, "v", []⟩, [.text "a", .text " ", .text "b"]⟩

theorem ofBytes_cutValue : Event.ofBytes cutValue =
    ([.start ⟨none, "v", []⟩, .text "a", .ignored, .text " ", .cdata "b", .stop], none) := by
  decide +kernel

theorem parse_cutValue : parse cutValue = .ok cutValueRead := by
  rw [parse_eq_ofEvents ofBytes_cutValue]
  rfl

theorem writtenAs_cutValue : WrittenAs (Event.ofBytes cutValue).1 cutValueWritten := by
  rw [ofBytes_cutValue]
  exact ⟨[], [], rfl, nofun⟩

theorem parse_keeps_text_cutValue : parse cutValue = .ok cutValueRead ∧
    (∃ document, WrittenAs (Event.ofBytes cutValue).1 document) ∧
    ∀ document, WrittenAs (Event.ofBytes cutValue).1 document →
      List.Forall₂ KeptFrom cutValueRead.everyElement document.everyElement :=
  ⟨parse_cutValue, parse_keeps_text parse_cutValue⟩

/-- White space is dropped from the middle of a value, where no element is. -/
theorem cut_value_loses_space : parse cutValue = .ok cutValueRead ∧
    WrittenAs (Event.ofBytes cutValue).1 cutValueWritten ∧
    cutValueRead.everyElement = [cutValueRead] ∧ cutValueWritten.everyElement = [cutValueWritten] ∧
    cutValueRead.elements = [] ∧ cutValueRead.ownText = "ab" ∧ cutValueWritten.ownText = "a b" :=
  ⟨parse_cutValue, writtenAs_cutValue, rfl, rfl, rfl, by decide, by decide⟩

end Element

end CubeClient.Xml
