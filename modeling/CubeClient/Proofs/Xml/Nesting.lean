import CubeClient.Proofs.Failure
import CubeClient.Xml.Document

/-!
# Nested documents

The builder takes exactly the events that a tree is written as (`Element.built_iff_nested`), once
what makes no tree is left out: ignored events and white space. The two directions are two
inductions. Over the events, one step at a time, a half-built tree is always written as the events
that were kept so far (`TreeBuilder.step_events`). Over the tree, the events of its nodes put these
nodes, and nothing else, into the element that is open (`TreeBuilder.foldlM_eventsOf`). Together
they say which half-built tree there is behind any events (`TreeBuilder.foldlM_step_eq_ok_iff`), so
that a fault is one of the first event that does not fit it, or of the end.
-/

namespace CubeClient.Xml

open CubeClient.Text

/-! ## Events that make a tree -/

namespace Event

/-- An event in the form in which a tree is written. CDATA is text, and an empty tag is a start tag
with its end. -/
def plain : Event → List Event
  | .start tag => [.start tag]
  | .empty tag => [.start tag, .stop]
  | .stop => [.stop]
  | .text content => [.text content]
  | .cdata content => [.text content]
  | .ignored => []

/-- Text that is only white space. -/
def isBlankText : Event → Bool
  | .text content => isBlank content
  | _ => false

/-- The events that make a tree: all but white space and what is ignored. -/
def kept (events : List Event) : List Event :=
  (events.flatMap plain).filter (!·.isBlankText)

theorem kept_cons (event : Event) (events : List Event) :
    kept (event :: events) = kept [event] ++ kept events := by
  simp [kept]

/-- A text is kept unless it is blank. -/
theorem kept_text (content : String) :
    kept [.text content] = if isBlank content then [] else [.text content] := by
  cases h : isBlank content <;> simp [kept, plain, isBlankText, h]

theorem not_blank_of_mem_kept {event : Event} {events : List Event} (h : event ∈ kept events) :
    event.isBlankText = false := by
  simpa using List.of_mem_filter h

end Event

/-! ## Nodes and their events -/

namespace Node

theorem eventsOf_append (nodes more : List Node) :
    eventsOf (nodes ++ more) = eventsOf nodes ++ eventsOf more := by
  induction nodes with
  | nil => rfl
  | cons node rest ih => rw [List.cons_append, eventsOf, eventsOf, ih, List.append_assoc]

mutual

theorem mem_events_of_mem_texts :
    (node : Node) → ∀ content ∈ texts node, .text content ∈ events node
  | .text content, _, h => by
    rw [texts, List.mem_singleton] at h
    rw [h, events]
    exact List.mem_cons_self
  | .element tag children, content, h => by
    have hmem := mem_eventsOf_of_mem_textsOf children content h
    rw [events]
    exact List.mem_cons_of_mem _ (List.mem_append_left _ hmem)

theorem mem_eventsOf_of_mem_textsOf :
    (nodes : List Node) → ∀ content ∈ textsOf nodes, .text content ∈ eventsOf nodes
  | [], _, h => nomatch h
  | node :: rest, content, h => by
    rw [textsOf, List.mem_append] at h
    rw [eventsOf, List.mem_append]
    exact h.imp (mem_events_of_mem_texts node content) (mem_eventsOf_of_mem_textsOf rest content)

end

end Node

/-! ## The half-built tree -/

namespace TreeBuilder

/-- The events of open elements, outermost first. -/
def eventsOfOpen (opened : List Element) : List Event :=
  opened.flatMap fun e => .start e.tag :: Node.eventsOf e.children

/-- The events that a half-built tree is written as: the root, once it is there, and what is open
behind it. -/
def events (b : TreeBuilder) : List Event :=
  b.root.toList.flatMap Element.events ++ eventsOfOpen b.stack.reverse

/-! ### What was kept is in the tree -/

theorem events_push (e : Element) (outer : List Element) (root : Option Element) (node : Node) :
    events ⟨e.push node :: outer, root⟩ = events ⟨e :: outer, root⟩ ++ node.events := by
  simp [events, eventsOfOpen, Element.push, Node.eventsOf_append, Node.eventsOf]

theorem events_start (b : TreeBuilder) (tag : Tag) :
    events { b with stack := ⟨tag, []⟩ :: b.stack } = b.events ++ [.start tag] := by
  simp [events, eventsOfOpen, Node.eventsOf]

/-- An element that ends adds nothing but its end. -/
theorem attach_events {b b' : TreeBuilder} {e : Element} (h : b.attach e = .ok b') :
    b'.events = b.events ++ e.events := by
  obtain ⟨stack, root⟩ := b
  cases stack with
  | cons parent outer =>
    cases h
    exact events_push parent outer root e.toNode
  | nil =>
    cases root with
    | none =>
      cases h
      simp [events, eventsOfOpen]
    | some r => cases h

theorem pushText_events {b b' : TreeBuilder} {content : String} (h : b.pushText content = .ok b') :
    b'.events = b.events ++ Event.kept [.text content] := by
  obtain ⟨stack, root⟩ := b
  rw [Event.kept_text]
  unfold pushText at h
  split at h
  · rename_i hblank
    cases h
    rw [if_pos hblank, List.append_nil]
  · rename_i hblank
    rw [if_neg hblank]
    cases stack with
    | nil => cases h
    | cons parent outer =>
      cases h
      exact events_push parent outer root (.text content)

/-- A step adds the event, unless it is a blank text. -/
theorem step_events {b b' : TreeBuilder} {event : Event} (h : b.step event = .ok b') :
    b'.events = b.events ++ Event.kept [event] := by
  cases event with
  | start tag =>
    cases h
    exact events_start b tag
  | empty tag => exact attach_events h
  | stop =>
    obtain ⟨stack, root⟩ := b
    cases stack with
    | nil => cases h
    | cons e outer =>
      rw [attach_events h]
      simp [events, eventsOfOpen, Event.kept, Event.plain, Event.isBlankText, Element.events,
        Element.toNode, Node.events]
  | text content => exact pushText_events h
  | cdata content => exact pushText_events h
  | ignored =>
    cases h
    exact (List.append_nil _).symm

/-- Events that are accepted are those that the builder stands for. -/
theorem foldlM_events {b b' : TreeBuilder} {events : List Event}
    (h : events.foldlM step b = .ok b') : b'.events = b.events ++ Event.kept events := by
  induction events generalizing b with
  | nil =>
    cases h
    exact (List.append_nil _).symm
  | cons event events ih =>
    obtain ⟨middle, hevent, hevents⟩ := bind_eq_ok h
    rw [ih hevents, step_events hevent, Event.kept_cons event events, List.append_assoc]

/-! ### What is written is built -/

theorem foldlM_kept_singleton (event : Event) (b : TreeBuilder) :
    (Event.kept [event]).foldlM step b = b.step event := by
  have htext : ∀ content : String,
      (Event.kept [.text content]).foldlM step b = b.pushText content := by
    intro content
    rw [Event.kept_text]
    split
    · rename_i hblank
      rw [pushText, if_pos hblank]
      rfl
    · exact bind_pure _
  cases event with
  | start tag => rfl
  | empty tag =>
    show (b.attach ⟨tag, []⟩ >>= pure) = _
    exact bind_pure _
  | stop => exact bind_pure _
  | text content => exact htext content
  | cdata content => exact htext content
  | ignored => rfl

/-- Blank texts make no difference to the builder. -/
theorem foldlM_kept (events : List Event) (b : TreeBuilder) :
    (Event.kept events).foldlM step b = events.foldlM step b := by
  induction events generalizing b with
  | nil => rfl
  | cons event events ih =>
    rw [Event.kept_cons, List.foldlM_append, foldlM_kept_singleton, List.foldlM_cons]
    exact congrArg _ (funext ih)

mutual

/-- A node without blank text, read from its events, is the next child of the innermost element. -/
theorem foldlM_node (tag : Tag) (children : List Node) (outer : List Element)
    (root : Option Element) : (node : Node) → (∀ e ∈ node.events, e.isBlankText = false) →
      node.events.foldlM step ⟨⟨tag, children⟩ :: outer, root⟩ =
        .ok ⟨⟨tag, children ++ [node]⟩ :: outer, root⟩
  | .text content, h => by
    have hblank : isBlank content = false := h _ List.mem_cons_self
    rw [Node.events, List.foldlM_cons, step, pushText, if_neg (ne_true_of_eq_false hblank)]
    rfl
  | .element inner nodes, h => by
    rw [Node.events] at h ⊢
    have hnodes := foldlM_eventsOf inner [] (⟨tag, children⟩ :: outer) root nodes fun e he =>
      h e (List.mem_cons_of_mem _ (List.mem_append_left _ he))
    rw [List.foldlM_cons]
    show ((Node.eventsOf nodes ++ [Event.stop]).foldlM step
      ⟨⟨inner, []⟩ :: ⟨tag, children⟩ :: outer, root⟩) = _
    rw [List.foldlM_append, hnodes]
    rfl

/-- The events of nodes add the nodes to the open element. -/
theorem foldlM_eventsOf (tag : Tag) (children : List Node) (outer : List Element)
    (root : Option Element) : (nodes : List Node) →
      (∀ e ∈ Node.eventsOf nodes, e.isBlankText = false) →
      (Node.eventsOf nodes).foldlM step ⟨⟨tag, children⟩ :: outer, root⟩ =
        .ok ⟨⟨tag, children ++ nodes⟩ :: outer, root⟩
  | [], _ => by rw [List.append_nil]; rfl
  | node :: rest, h => by
    rw [Node.eventsOf] at h ⊢
    have hnode := foldlM_node tag children outer root node fun e he =>
      h e (List.mem_append_left _ he)
    have hrest := foldlM_eventsOf tag (children ++ [node]) outer root rest fun e he =>
      h e (List.mem_append_right _ he)
    rw [List.append_assoc] at hrest
    rw [List.foldlM_append, hnode]
    exact hrest

end

/-- The events of an element build it. -/
theorem foldlM_root {e : Element} (h : ∀ event ∈ e.events, event.isBlankText = false) :
    e.events.foldlM step .initial = .ok ⟨[], some e⟩ := by
  obtain ⟨tag, children⟩ := e
  rw [Element.events, Element.toNode, Node.events] at h ⊢
  have hchildren := foldlM_eventsOf tag [] [] none children fun event hevent =>
    h event (List.mem_cons_of_mem _ (List.mem_append_left _ hevent))
  rw [List.foldlM_cons]
  show ((Node.eventsOf children ++ [Event.stop]).foldlM step ⟨[⟨tag, []⟩], none⟩) = _
  rw [List.foldlM_append, hchildren]
  rfl

theorem foldlM_open (opened : List Element) (stack : List Element) (root : Option Element)
    (h : ∀ event ∈ eventsOfOpen opened, event.isBlankText = false) :
    (eventsOfOpen opened).foldlM step ⟨stack, root⟩ = .ok ⟨opened.reverse ++ stack, root⟩ := by
  induction opened generalizing stack with
  | nil => rfl
  | cons e opened ih =>
    obtain ⟨tag, children⟩ := e
    rw [eventsOfOpen, List.flatMap_cons] at h ⊢
    have hchildren := foldlM_eventsOf tag [] stack root children fun event hevent =>
      h event (List.mem_append_left _ (List.mem_cons_of_mem _ hevent))
    have hopened := ih (⟨tag, children⟩ :: stack) fun event hevent =>
      h event (List.mem_append_right _ hevent)
    rw [List.cons_append, List.foldlM_cons]
    show ((Node.eventsOf children ++ eventsOfOpen opened).foldlM step
      ⟨⟨tag, []⟩ :: stack, root⟩) = _
    rw [List.foldlM_append, hchildren, List.reverse_cons, List.append_assoc]
    exact hopened

/-- A builder is rebuilt from what it stands for. -/
theorem foldlM_own {b : TreeBuilder} (h : ∀ event ∈ b.events, event.isBlankText = false) :
    b.events.foldlM step .initial = .ok b := by
  obtain ⟨stack, root⟩ := b
  have hroot : (root.toList.flatMap Element.events).foldlM step .initial = .ok ⟨[], root⟩ := by
    cases root with
    | none => rfl
    | some e =>
      rw [Option.toList_some, List.flatMap_singleton]
      refine foldlM_root fun event hevent => h event (List.mem_append_left _ ?_)
      rwa [Option.toList_some, List.flatMap_singleton]
  have hopen := foldlM_open stack.reverse [] root fun event hevent =>
    h event (List.mem_append_right _ hevent)
  rw [List.reverse_reverse, List.append_nil] at hopen
  rw [events, List.foldlM_append, hroot]
  exact hopen

/-- Events lead to a builder exactly if it stands for what is kept of them. -/
theorem foldlM_step_eq_ok_iff {events : List Event} {b : TreeBuilder} :
    events.foldlM step .initial = .ok b ↔ Event.kept events = b.events := by
  constructor
  · intro h
    exact (foldlM_events h).symm
  · intro h
    rw [← foldlM_kept, h]
    exact foldlM_own fun event hevent => Event.not_blank_of_mem_kept (h ▸ hevent)

/-! ### Faults -/

/-- What an event breaks, behind what is read so far: an end tag needs an open element, a document
has one root, and text stands inside it. -/
inductive Breaks (b : TreeBuilder) : Event → TreeFault → Prop
  | strayEndTag (hstack : b.stack = []) : Breaks b .stop .strayEndTag
  | secondRoot {e : Element} (hstack : b.stack = [e]) (hroot : b.root ≠ none) :
    Breaks b .stop .secondRoot
  | secondEmptyRoot (tag : Tag) (hstack : b.stack = []) (hroot : b.root ≠ none) :
    Breaks b (.empty tag) .secondRoot
  | text {content : String} (hstack : b.stack = []) (hblank : isBlank content = false) :
    Breaks b (.text content) .textOutsideRoot
  | cdata {content : String} (hstack : b.stack = []) (hblank : isBlank content = false) :
    Breaks b (.cdata content) .textOutsideRoot

/-- What is wrong with a document that ends here. -/
inductive Unfinished (b : TreeBuilder) : TreeFault → Prop
  | unclosed {e : Element} {outer : List Element} (hstack : b.stack = e :: outer) :
    Unfinished b (.unclosed e.name)
  | noRoot (hstack : b.stack = []) (hroot : b.root = none) : Unfinished b .noRoot

variable {b : TreeBuilder} {fault : TreeFault}

theorem attach_eq_error_iff {e : Element} :
    b.attach e = .error fault ↔ b.stack = [] ∧ b.root ≠ none ∧ fault = .secondRoot := by
  obtain ⟨stack, root⟩ := b
  cases stack <;> cases root <;> simp [attach, eq_comm]

theorem pushText_eq_error_iff {content : String} :
    b.pushText content = .error fault ↔
      b.stack = [] ∧ isBlank content = false ∧ fault = .textOutsideRoot := by
  obtain ⟨stack, root⟩ := b
  cases hblank : isBlank content <;> cases stack <;> simp [pushText, hblank, eq_comm]

/-- A step fails exactly if the event breaks the nesting. -/
theorem step_eq_error_iff {event : Event} :
    b.step event = .error fault ↔ b.Breaks event fault := by
  constructor
  · intro h
    cases event with
    | start tag => cases h
    | empty tag =>
      obtain ⟨hstack, hroot, rfl⟩ := attach_eq_error_iff.mp h
      exact .secondEmptyRoot tag hstack hroot
    | stop =>
      obtain ⟨stack, root⟩ := b
      cases stack with
      | nil =>
        cases h
        exact .strayEndTag rfl
      | cons e outer =>
        obtain ⟨houter, hroot, rfl⟩ := attach_eq_error_iff.mp h
        exact .secondRoot (congrArg (e :: ·) houter) hroot
    | text content =>
      obtain ⟨hstack, hblank, rfl⟩ := pushText_eq_error_iff.mp h
      exact .text hstack hblank
    | cdata content =>
      obtain ⟨hstack, hblank, rfl⟩ := pushText_eq_error_iff.mp h
      exact .cdata hstack hblank
    | ignored => cases h
  · intro h
    cases h with
    | strayEndTag hstack => rw [step, hstack]
    | secondRoot hstack hroot =>
      rw [step, hstack]
      exact attach_eq_error_iff.mpr ⟨rfl, hroot, rfl⟩
    | secondEmptyRoot tag hstack hroot => exact attach_eq_error_iff.mpr ⟨hstack, hroot, rfl⟩
    | text hstack hblank => exact pushText_eq_error_iff.mpr ⟨hstack, hblank, rfl⟩
    | cdata hstack hblank => exact pushText_eq_error_iff.mpr ⟨hstack, hblank, rfl⟩

/-- A tree is finished if its root is closed. -/
theorem finish_eq_ok_iff {t : Element} : b.finish = .ok t ↔ b = ⟨[], some t⟩ := by
  obtain ⟨stack, root⟩ := b
  cases stack <;> cases root <;> simp [finish]

theorem finish_eq_error_iff : b.finish = .error fault ↔ b.Unfinished fault := by
  obtain ⟨stack, root⟩ := b
  constructor
  · intro h
    cases stack with
    | cons e outer =>
      cases h
      exact .unclosed rfl
    | nil =>
      cases root with
      | none =>
        cases h
        exact .noRoot rfl rfl
      | some t => cases h
  · intro h
    cases h with
    | unclosed hstack =>
      cases hstack
      rfl
    | noRoot hstack hroot =>
      cases hstack
      cases hroot
      rfl

end TreeBuilder

namespace Element

variable {events : List Event} {fault : TreeFault} {t : Element}

/-- Events build a tree exactly if what is kept of them are the events of the tree. -/
theorem ofEvents_eq_ok_iff : ofEvents events = .ok t ↔ Event.kept events = t.events := by
  have hroot : TreeBuilder.events ⟨[], some t⟩ = t.events := by
    simp [TreeBuilder.events, TreeBuilder.eventsOfOpen]
  rw [← hroot, ← TreeBuilder.foldlM_step_eq_ok_iff]
  constructor
  · intro h
    obtain ⟨b, hb, hfinish⟩ := bind_eq_ok h
    rw [hb, TreeBuilder.finish_eq_ok_iff.mp hfinish]
  · intro h
    rw [ofEvents, h]
    rfl

/-- They fail with the first event that breaks the nesting, or at their end. -/
theorem ofEvents_eq_error_iff : ofEvents events = .error fault ↔
    (∃ before event after b, events = before ++ event :: after ∧
      Event.kept before = TreeBuilder.events b ∧ b.Breaks event fault) ∨
    ∃ b, Event.kept events = TreeBuilder.events b ∧ b.Unfinished fault := by
  simp only [← TreeBuilder.foldlM_step_eq_ok_iff, ← TreeBuilder.step_eq_error_iff,
    ← TreeBuilder.finish_eq_error_iff, ← foldlM_eq_error_iff]
  rw [ofEvents]
  cases events.foldlM TreeBuilder.step .initial with
  | error e => simp [Except.bind]
  | ok b => simp [Except.bind]

theorem parse_eq_ofEvents {bytes : Bytes} (h : Event.ofBytes bytes = (events, none)) :
    parse bytes = (ofEvents events).mapError .tree := by
  rw [parse, h, ofEvents]
  dsimp only
  cases events.foldlM TreeBuilder.step .initial with
  | error e => rfl
  | ok b => rfl

/-- A document is accepted if its bytes are events to their end and these build a tree. -/
theorem parse_eq_ok_iff {bytes : Bytes} {t : Element} : parse bytes = .ok t ↔
    ∃ events, Event.ofBytes bytes = (events, none) ∧ ofEvents events = .ok t := by
  constructor
  · intro h
    cases hbytes : Event.ofBytes bytes with
    | mk events fault =>
      cases fault with
      | none =>
        rw [parse_eq_ofEvents hbytes] at h
        cases hevents : ofEvents events with
        | error e => rw [hevents] at h; cases h
        | ok e => rw [hevents] at h; cases h; exact ⟨events, rfl, hevents⟩
      | some fault =>
        rw [parse, hbytes] at h
        dsimp only at h
        split at h <;> cases h
  · rintro ⟨events, hbytes, hevents⟩
    rw [parse_eq_ofEvents hbytes, hevents]
    rfl

/-- No text of a tree is blank. -/
theorem blank_not_mem_texts (h : Event.kept events = t.events) :
    ∀ content ∈ t.toNode.texts, isBlank content = false := by
  intro content hcontent
  have hmem : .text content ∈ t.events := Node.mem_events_of_mem_texts t.toNode content hcontent
  exact Event.not_blank_of_mem_kept (h ▸ hmem)

/-- Events make the tree that is written as those that are kept, in their order, and no text of it
is white space alone. Otherwise what is wrong is the first event that does not fit behind those
before it, or that the document ends too early. -/
theorem built_iff_nested (events : List Event) :
    (∀ t, ofEvents events = .ok t ↔ Event.kept events = t.events) ∧
    (∀ t, ofEvents events = .ok t → ∀ content ∈ t.toNode.texts, isBlank content = false) ∧
    (∀ fault, ofEvents events = .error fault ↔
      (∃ before event after b, events = before ++ event :: after ∧
        Event.kept before = TreeBuilder.events b ∧ b.Breaks event fault) ∨
      ∃ b, Event.kept events = TreeBuilder.events b ∧ b.Unfinished fault) ∧
    ∀ bytes, Event.ofBytes bytes = (events, none) →
      parse bytes = (ofEvents events).mapError .tree :=
  ⟨fun _ => ofEvents_eq_ok_iff, fun _ h => blank_not_mem_texts (ofEvents_eq_ok_iff.mp h),
    fun _ => ofEvents_eq_error_iff, fun _ h => parse_eq_ofEvents h⟩

end Element

end CubeClient.Xml
