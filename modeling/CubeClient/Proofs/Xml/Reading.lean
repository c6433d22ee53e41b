import CubeClient.Proofs.Text.Utf8
import CubeClient.Proofs.Xml.Tags
import CubeClient.Xml.Document

/-!
# Reading a spelled document

`Element.parse` answers the tree that a document says (`parse_bytes`). Content is followed through
both halves of the reader at once, with whatever stands behind it left open: its events come first
(`eventsFrom_content`), and the builder puts what it says into the innermost open element
(`foldlM_content`). Both are inductions over the content.
-/

namespace CubeClient.Xml

open CubeClient.Text Markup

/-! ## Texts -/

theorem unescapeList?_of_not_mem {cs : List Char} (h : '&' ∉ cs) : unescapeList? cs = some cs := by
  induction cs with
  | nil => rw [unescapeList?]
  | cons c cs ih =>
    have hc : c ≠ '&' := by
      rintro rfl
      exact h List.mem_cons_self
    have hcs : '&' ∉ cs := fun hmem => h (List.mem_cons_of_mem c hmem)
    rw [unescapeList?, if_neg hc, ih hcs]
    rfl

/-- The bytes of a text are decoded to what the text says. -/
theorem Event.decodeText_encode {s value : String} (h : unescape? s = some value) :
    decodeText (Utf8.encode s) = .ok value := by
  rw [decodeText, Utf8.decode?_encode]
  dsimp only
  rw [h]

/-- White space as text. -/
def Spacing.value (s : Spacing) : String :=
  String.ofList (s.bytes.map fun b => Char.ofNat b.toNat)

theorem Spacing.encode_value (s : Spacing) : Utf8.encode s.value = s.bytes := by
  obtain ⟨bytes, blank⟩ := s
  rw [value, Utf8.encode, String.toList_ofList]
  induction bytes with
  | nil => rfl
  | cons b rest ih =>
    have hb := isBlankByte_cases (blank b List.mem_cons_self)
    have hrest := ih fun c hc => blank c (List.mem_cons_of_mem b hc)
    rw [List.map_cons, Utf8.encodeList, List.flatMap_cons]
    rw [Utf8.encodeList] at hrest
    rw [hrest]
    rcases hb with rfl | rfl | rfl | rfl <;> rfl

theorem Spacing.mem_value {s : Spacing} {c : Char} (h : c ∈ s.value.toList) :
    isSpace c = true ∧ c ≠ '&' := by
  rw [value, String.toList_ofList, List.mem_map] at h
  obtain ⟨b, hb, rfl⟩ := h
  rcases isBlankByte_cases (s.blank b hb) with rfl | rfl | rfl | rfl <;> decide

theorem Spacing.isBlank_value (s : Spacing) : isBlank s.value = true := by
  rw [isBlank, List.all_eq_true]
  exact fun c hc => (mem_value hc).1

/-- White space between pieces of markup. -/
def Spacing.charData (s : Spacing) : CharData where
  raw := s.bytes
  value := s.value
  inert h := s.ne_of_mem h rfl rfl
  reads := by
    have hplain : unescape? s.value = some s.value := by
      rw [unescape?, unescapeList?_of_not_mem fun h => (mem_value h).2 rfl, Option.map_some,
        String.ofList_toList]
    rw [← s.encode_value]
    exact Event.decodeText_encode hplain

theorem Event.decodeText_nil : decodeText [] = .ok "" := by
  have hempty : unescape? "" = some "" := by
    rw [unescape?, String.toList_empty, unescapeList?]
    rfl
  exact decodeText_encode hempty

/-- No text is an empty text. -/
theorem CharData.value_of_nil {t : CharData} (h : t.raw = []) : t.value = "" := by
  have hreads := t.reads
  rw [h, Event.decodeText_nil] at hreads
  exact (Except.ok.inj hreads).symm

/-! ## Events -/

/-- The event of a text, if there is a text. -/
def CharData.events (t : CharData) : List Event :=
  if t.raw = [] then [] else [.text t.value]

/-- The events of content. -/
def Content.events (scope : NamespaceScope) : Content → List Event
  | .done last => last.events
  | .remark before _ rest => before.events ++ .ignored :: rest.events scope
  | .cdata before piece rest =>
    before.events ++ .cdata (Utf8.decodeLossy piece.raw) :: rest.events scope
  | .empty before tag rest => before.events ++ .empty (tag.read scope) :: rest.events scope
  | .element before tag inner _ rest =>
    before.events ++ .start (tag.read scope) ::
      (inner.events (scope.enter tag) ++ .stop :: rest.events scope)

/-- The events of what is left of a document. -/
def eventsFrom (bindings : Bindings) (tags : Event.OpenTags) (s : Bytes) :
    List Event × Option MarkupFault :=
  ((Event.ofMarkup bindings tags (scan s).1).1,
    (Event.ofMarkup bindings tags (scan s).1).2.or (scan s).2)

section

variable {bindings : Bindings} {tags : Event.OpenTags} {scope : NamespaceScope} {s rest : Bytes}

/-- Character data is read up to the next markup. -/
theorem eventsFrom_text (t : CharData) (hrest : AtMarkup rest) :
    eventsFrom bindings tags (t.raw ++ rest) =
      (t.events ++ (eventsFrom bindings tags rest).1, (eventsFrom bindings tags rest).2) := by
  by_cases h : t.raw = []
  · simp [CharData.events, h]
  · simp [eventsFrom, scan_text t.inert h hrest, Event.ofMarkup, t.reads, CharData.events, h]

theorem eventsFrom_skipped (h : readBracket s = .ok (.skipped, rest)) :
    eventsFrom bindings tags (lessThan :: s) =
      (.ignored :: (eventsFrom bindings tags rest).1, (eventsFrom bindings tags rest).2) := by
  simp [eventsFrom, scan_markup h, Event.ofMarkup]

theorem eventsFrom_cdata {raw : Bytes} (h : readBracket s = .ok (.cdata raw, rest)) :
    eventsFrom bindings tags (lessThan :: s) =
      (.cdata (Utf8.decodeLossy raw) :: (eventsFrom bindings tags rest).1,
        (eventsFrom bindings tags rest).2) := by
  simp [eventsFrom, scan_markup h, Event.ofMarkup]

/-- An empty tag is read in the scope around it. -/
theorem eventsFrom_empty (hagrees : bindings.Agrees scope) (tag : SpelledTag) :
    eventsFrom bindings tags (ascii "<" ++ (tag.content ++ (ascii "/>" ++ rest))) =
      (.empty (tag.read scope) :: (eventsFrom bindings tags rest).1,
        (eventsFrom bindings tags rest).2) := by
  obtain ⟨inner, hread, -⟩ := Event.readTag_eq hagrees tag
  show eventsFrom bindings tags (lessThan :: (tag.content ++ (ascii "/>" ++ rest))) = _
  simp [eventsFrom, scan_markup (readBracket_emptyTag tag rest), Event.ofMarkup, hread]

/-- A start tag opens a scope with its declarations in it. -/
theorem eventsFrom_start (hagrees : bindings.Agrees scope) (tag : SpelledTag) (rest : Bytes) :
    ∃ inner : Bindings, inner.Agrees (scope.enter tag) ∧
      eventsFrom bindings tags (ascii "<" ++ (tag.content ++ (ascii ">" ++ rest))) =
        (.start (tag.read scope) :: (eventsFrom inner ((tag.name.bytes, bindings) :: tags) rest).1,
          (eventsFrom inner ((tag.name.bytes, bindings) :: tags) rest).2) := by
  obtain ⟨inner, hread, hinner⟩ := Event.readTag_eq hagrees tag
  refine ⟨inner, hinner, ?_⟩
  show eventsFrom bindings tags (lessThan :: (tag.content ++ (ascii ">" ++ rest))) = _
  simp [eventsFrom, scan_markup (readBracket_startTag tag rest), Event.ofMarkup, hread]

/-- An end tag goes back to the scope outside. -/
theorem eventsFrom_stop (outer : Bindings) (name : SpelledName) (closing : Spacing) :
    eventsFrom bindings ((name.bytes, outer) :: tags)
        (ascii "</" ++ (name.bytes ++ (closing.bytes ++ (ascii ">" ++ rest)))) =
      (.stop :: (eventsFrom outer tags rest).1, (eventsFrom outer tags rest).2) := by
  show eventsFrom bindings ((name.bytes, outer) :: tags)
    (lessThan :: slash :: (name.bytes ++ (closing.bytes ++ (ascii ">" ++ rest)))) = _
  simp [eventsFrom, scan_markup (readBracket_endTag name closing rest), Event.ofMarkup]

end

theorem atMarkup_cons (s : Bytes) : AtMarkup (lessThan :: s) := by
  intro b hb
  exact (Option.some.inj hb).symm

theorem atMarkup_ascii {literal : String} (h : literal.toList.head? = some '<') (s : Bytes) :
    AtMarkup (ascii literal ++ s) := by
  obtain ⟨rest, hrest⟩ := List.head?_eq_some_iff.mp h
  rw [ascii, hrest]
  exact atMarkup_cons _

theorem Remark.atMarkup (remark : Remark) (rest : Bytes) : AtMarkup (remark.bytes ++ rest) := by
  obtain ⟨inner, h, -⟩ := readBracket_remark remark rest
  rw [h]
  exact atMarkup_cons _

/-- Remarks are passed over. -/
theorem eventsFrom_remark {bindings : Bindings} {tags : Event.OpenTags} (remark : Remark)
    (rest : Bytes) :
    eventsFrom bindings tags (remark.bytes ++ rest) =
      (.ignored :: (eventsFrom bindings tags rest).1, (eventsFrom bindings tags rest).2) := by
  obtain ⟨inner, h, hread⟩ := readBracket_remark remark rest
  rw [h]
  exact eventsFrom_skipped hread

/-- The events of content come before those of what stands behind it. -/
theorem eventsFrom_content {bindings : Bindings} {scope : NamespaceScope} {tags : Event.OpenTags}
    {rest : Bytes} (hagrees : bindings.Agrees scope) (content : Content) (hrest : AtMarkup rest) :
    eventsFrom bindings tags (content.bytes ++ rest) =
      (content.events scope ++ (eventsFrom bindings tags rest).1,
        (eventsFrom bindings tags rest).2) := by
  induction content generalizing bindings scope tags rest with
  | done last => exact eventsFrom_text last hrest
  | remark before piece more ih =>
    rw [Content.bytes, Content.events]
    simp only [List.append_assoc]
    rw [eventsFrom_text before (piece.atMarkup _), eventsFrom_remark, ih hagrees hrest]
    rfl
  | cdata before piece more ih =>
    rw [Content.bytes, Content.events]
    simp only [List.append_assoc]
    have hpiece : eventsFrom bindings tags
        (ascii "<![CDATA[" ++ (piece.raw ++ (ascii "]]>" ++ (more.bytes ++ rest)))) = _ :=
      eventsFrom_cdata (readBracket_cdata piece (more.bytes ++ rest))
    rw [eventsFrom_text before (atMarkup_ascii rfl _), hpiece, ih hagrees hrest]
    rfl
  | empty before tag more ih =>
    rw [Content.bytes, Content.events]
    simp only [List.append_assoc]
    have htag : eventsFrom bindings tags
        (ascii "<" ++ (tag.content ++ (ascii "/>" ++ (more.bytes ++ rest)))) = _ :=
      eventsFrom_empty hagrees tag
    rw [eventsFrom_text before (atMarkup_ascii rfl _), htag, ih hagrees hrest]
    rfl
  | element before tag inner closing more ihinner ih =>
    rw [Content.bytes, Content.events]
    simp only [List.append_assoc]
    -- The start tag puts the scope outside away, and the end tag brings it back for what follows.
    obtain ⟨bound, hbound, hstart⟩ := eventsFrom_start hagrees tag (inner.bytes ++ (ascii "</" ++
      (tag.name.bytes ++ (closing.bytes ++ (ascii ">" ++ (more.bytes ++ rest))))))
    rw [eventsFrom_text before (atMarkup_ascii rfl _), hstart,
      ihinner hbound (atMarkup_ascii rfl _), eventsFrom_stop, ih hagrees hrest]
    simp

/-- White space and remarks, as events. -/
def Surroundings.events (s : Surroundings) : List Event :=
  s.remarks.flatMap (fun (before, _) => before.charData.events ++ [.ignored]) ++
    s.last.charData.events

theorem eventsFrom_surroundings {bindings : Bindings} {tags : Event.OpenTags} {rest : Bytes}
    (s : Surroundings) (hrest : AtMarkup rest) :
    eventsFrom bindings tags (s.bytes ++ rest) =
      (s.events ++ (eventsFrom bindings tags rest).1, (eventsFrom bindings tags rest).2) := by
  obtain ⟨remarks, last⟩ := s
  induction remarks with
  | nil => exact eventsFrom_text last.charData hrest
  | cons first remarks ih =>
    obtain ⟨before, remark⟩ := first
    rw [Surroundings.bytes, Surroundings.events, List.flatMap_cons, List.flatMap_cons]
    simp only [List.append_assoc]
    rw [Surroundings.bytes, List.append_assoc] at ih
    refine (eventsFrom_text before.charData (remark.atMarkup _)).trans ?_
    rw [eventsFrom_remark, ih]
    simp [Surroundings.events]

/-! ## The tree -/

namespace TreeBuilder

theorem pushText_inside (tag : Tag) (children : List Node) (outer : List Element)
    (root : Option Element) (text : String) :
    pushText ⟨⟨tag, children⟩ :: outer, root⟩ text =
      .ok ⟨⟨tag, children ++ Node.ofText text⟩ :: outer, root⟩ := by
  cases h : isBlank text <;> simp [pushText, Node.ofText, h, Element.push]

theorem pushText_blank {builder : TreeBuilder} {text : String} (h : isBlank text = true) :
    builder.pushText text = .ok builder := by
  rw [pushText, if_pos h]

/-- Character data becomes a text of the open element. -/
theorem foldlM_charData (t : CharData) (tag : Tag) (children : List Node) (outer : List Element)
    (root : Option Element) :
    t.events.foldlM step ⟨⟨tag, children⟩ :: outer, root⟩ =
      .ok ⟨⟨tag, children ++ Node.ofText t.value⟩ :: outer, root⟩ := by
  unfold CharData.events
  split
  · rename_i h
    rw [CharData.value_of_nil h]
    simp [Node.ofText, isBlank, pure, Except.pure]
  · rw [List.foldlM_cons, step, pushText_inside]
    rfl

/-- What content says is added to the children of the element it stands in. -/
theorem foldlM_content (content : Content) (scope : NamespaceScope) (tag : Tag)
    (children : List Node) (outer : List Element) (root : Option Element) :
    (content.events scope).foldlM step ⟨⟨tag, children⟩ :: outer, root⟩ =
      .ok ⟨⟨tag, children ++ content.nodes scope⟩ :: outer, root⟩ := by
  induction content generalizing scope tag children outer with
  | done last => exact foldlM_charData last tag children outer root
  | remark before piece rest ih =>
    rw [Content.events, List.foldlM_append, foldlM_charData]
    refine (ih scope tag (children ++ Node.ofText before.value) outer).trans ?_
    rw [Content.nodes, List.append_assoc]
  | cdata before piece rest ih =>
    rw [Content.events, List.foldlM_append, foldlM_charData]
    show (pushText ⟨⟨tag, children ++ Node.ofText before.value⟩ :: outer, root⟩ _ >>= _) = _
    rw [pushText_inside]
    refine (ih scope tag _ outer).trans ?_
    simp only [Content.nodes, List.append_assoc]
  | empty before inner rest ih =>
    rw [Content.events, List.foldlM_append, foldlM_charData]
    refine (ih scope tag (children ++ Node.ofText before.value ++ [.element (inner.read scope) []])
      outer).trans ?_
    simp only [Content.nodes, List.append_assoc, List.cons_append, List.nil_append]
  | element before start inner closing rest ihinner ih =>
    -- The children of the inner element are gathered on top of the stack, then it is attached.
    have hinner := ihinner (scope.enter start) (start.read scope) []
      (⟨tag, children ++ Node.ofText before.value⟩ :: outer)
    rw [List.nil_append] at hinner
    have hrest := ih scope tag (children ++ Node.ofText before.value ++
      [.element (start.read scope) (inner.nodes (scope.enter start))]) outer
    rw [Content.events, List.foldlM_append, foldlM_charData]
    show ((inner.events (scope.enter start) ++ .stop :: rest.events scope).foldlM step
      ⟨⟨start.read scope, []⟩ :: ⟨tag, children ++ Node.ofText before.value⟩ :: outer, root⟩) = _
    rw [List.foldlM_append, hinner]
    refine hrest.trans ?_
    simp only [Content.nodes, List.append_assoc, List.cons_append, List.nil_append]

theorem foldlM_spacing (s : Spacing) (builder : TreeBuilder) :
    s.charData.events.foldlM step builder = .ok builder := by
  unfold CharData.events
  split
  · rfl
  · show (builder.pushText s.value >>= _) = _
    rw [pushText_blank s.isBlank_value]
    rfl

/-- What stands beside the root is dropped. -/
theorem foldlM_surroundings (s : Surroundings) (builder : TreeBuilder) :
    s.events.foldlM step builder = .ok builder := by
  obtain ⟨remarks, last⟩ := s
  induction remarks with
  | nil => exact foldlM_spacing last builder
  | cons first remarks ih =>
    rw [Surroundings.events, List.flatMap_cons]
    simp only [List.append_assoc]
    rw [List.foldlM_append, foldlM_spacing]
    exact ih

end TreeBuilder

namespace SpelledElement

/-- The events of a root. -/
def events : SpelledElement → List Event
  | .empty tag => [.empty (tag.read .outermost)]
  | .element tag inner _ =>
    .start (tag.read .outermost) ::
      (inner.events (NamespaceScope.outermost.enter tag) ++ [.stop])

/-- The bytes of an element are read as its events, whatever follows. -/
theorem eventsFrom_bytes (root : SpelledElement) (rest : Bytes) :
    eventsFrom .initial [] (root.bytes ++ rest) =
      (root.events ++ (eventsFrom .initial [] rest).1, (eventsFrom .initial [] rest).2) := by
  cases root with
  | empty tag =>
    rw [bytes]
    simp only [List.append_assoc]
    exact eventsFrom_empty .initial tag
  | element tag inner closing =>
    rw [bytes, events]
    simp only [List.append_assoc]
    obtain ⟨bound, hbound, hstart⟩ := @eventsFrom_start _ [] _ .initial tag
      (inner.bytes ++ (ascii "</" ++ (tag.name.bytes ++ (closing.bytes ++ (ascii ">" ++ rest)))))
    rw [hstart, eventsFrom_content hbound inner (atMarkup_ascii rfl _), eventsFrom_stop]
    simp

/-- The events of an element build what the element is read as. -/
theorem foldlM_events (root : SpelledElement) :
    root.events.foldlM TreeBuilder.step .initial =
      .ok ⟨[], some (root.read .outermost)⟩ := by
  cases root with
  | empty tag => rfl
  | element tag inner closing =>
    have hinner := TreeBuilder.foldlM_content inner (NamespaceScope.outermost.enter tag)
      (tag.read .outermost) [] [] none
    rw [events, List.foldlM_cons]
    show ((inner.events _ ++ [Event.stop]).foldlM TreeBuilder.step
      ⟨[⟨tag.read .outermost, []⟩], none⟩) = _
    rw [List.foldlM_append, hinner]
    rfl

theorem atMarkup (root : SpelledElement) (rest : Bytes) : AtMarkup (root.bytes ++ rest) := by
  cases root with
  | empty tag =>
    rw [bytes, List.append_assoc]
    exact atMarkup_ascii rfl _
  | element tag inner closing =>
    rw [bytes, List.append_assoc]
    exact atMarkup_ascii rfl _

end SpelledElement

/-- A document begins with markup or white space. -/
theorem SpelledDocument.head?_ne_mark (before : Surroundings) (root : SpelledElement)
    (rest : Bytes) :
    (before.bytes ++ (root.bytes ++ rest)).head? ≠ some 0xEF := by
  have hspacing : ∀ (s : Spacing) (x : Bytes), AtMarkup x → (s.bytes ++ x).head? ≠ some 0xEF := by
    intro s x hx h
    cases hs : s.bytes with
    | nil =>
      rw [hs, List.nil_append] at h
      exact absurd (hx _ h) (by decide)
    | cons b more =>
      rw [hs] at h
      exact s.ne_of_mem (hs ▸ List.mem_cons_self) rfl (Option.some.inj h)
  obtain ⟨remarks, last⟩ := before
  cases remarks with
  | nil => exact hspacing last _ (root.atMarkup rest)
  | cons first remarks =>
    rw [Surroundings.bytes, List.flatMap_cons]
    simp only [List.append_assoc]
    exact hspacing first.1 _ (first.2.atMarkup _)

/-- A document is its root between its surroundings. -/
theorem SpelledDocument.ofBytes_bytes (d : SpelledDocument) :
    Event.ofBytes d.bytes =
      eventsFrom .initial [] (d.before.bytes ++ (d.root.bytes ++ d.after.bytes)) := by
  have hmark : Event.byteOrderMark.isPrefixOf
      (d.before.bytes ++ (d.root.bytes ++ d.after.bytes)) = false := by
    have hne := head?_ne_mark d.before d.root d.after.bytes
    cases h : d.before.bytes ++ (d.root.bytes ++ d.after.bytes) with
    | nil => rfl
    | cons b rest =>
      rw [h, List.head?_cons] at hne
      have hb : ((0xEF : UInt8) == b) = false := by
        rw [beq_eq_false_iff_ne]
        rintro rfl
        exact hne rfl
      simp [Event.byteOrderMark, List.isPrefixOf, hb]
  have hstrip : (if Event.byteOrderMark.isPrefixOf d.bytes then d.bytes.drop 3 else d.bytes) =
      d.before.bytes ++ (d.root.bytes ++ d.after.bytes) := by
    rw [bytes]
    cases d.marked with
    | true => rfl
    | false => exact if_neg (ne_true_of_eq_false hmark)
  unfold Event.ofBytes
  rw [hstrip]
  rfl

/-- A document is read as the tree it says. -/
theorem Element.parse_bytes (d : SpelledDocument) : parse d.bytes = .ok d.tree := by
  have hevents : eventsFrom .initial [] (d.before.bytes ++ (d.root.bytes ++ d.after.bytes)) =
      (d.before.events ++ (d.root.events ++ d.after.events), none) := by
    have hafter : eventsFrom .initial [] (d.after.bytes ++ []) = _ :=
      eventsFrom_surroundings d.after nofun
    rw [List.append_nil] at hafter
    rw [eventsFrom_surroundings d.before (d.root.atMarkup _), SpelledElement.eventsFrom_bytes,
      hafter]
    simp [eventsFrom, scan, Event.ofMarkup]
  have hbuilt : (d.before.events ++ (d.root.events ++ d.after.events)).foldlM TreeBuilder.step
      .initial = .ok ⟨[], some d.tree⟩ := by
    rw [List.foldlM_append, TreeBuilder.foldlM_surroundings]
    show (d.root.events ++ d.after.events).foldlM TreeBuilder.step .initial = _
    rw [List.foldlM_append, SpelledElement.foldlM_events]
    exact TreeBuilder.foldlM_surroundings d.after _
  rw [parse, SpelledDocument.ofBytes_bytes, hevents]
  dsimp only
  rw [hbuilt]
  rfl

end CubeClient.Xml
