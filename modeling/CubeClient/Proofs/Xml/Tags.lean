import CubeClient.Proofs.Xml.Scanning

/-!
# Reading a spelled tag

A tag is read for what it says in its scope (`readTag_eq`). Its parts are found again: the name, the
attributes with their raw values, and the declarations among them. The bindings that the reader
keeps as a list agree with the scope that the spelling gives as a function (`Bindings.Agrees`), and
declaring keeps them in agreement.
-/

namespace CubeClient.Xml

open CubeClient.Text Markup

/-! ## Prefixes and local parts -/

namespace NCName

theorem colon_not_mem (name : NCName) : QName.colon ∉ name.bytes := fun h =>
  ne_of_isNameByte (name.isName _ h) rfl rfl

theorem ne_colon (name : NCName) : ∀ b ∈ name.bytes, (b != QName.colon) = true := by
  intro b hb
  rw [bne_iff_ne]
  exact ne_of_isNameByte (name.isName b hb) rfl

end NCName

theorem QName.qualifier?_bytes (name : SpelledName) :
    QName.qualifier? name.bytes = name.qualifierBytes := by
  unfold QName.qualifier? SpelledName.bytes SpelledName.qualifierBytes
  cases name.qualifier with
  | none => simp [name.localName.colon_not_mem]
  | some q =>
    rw [List.takeWhile_append_of_pos q.ne_colon]
    simp

theorem QName.localPart_bytes (name : SpelledName) :
    QName.localPart name.bytes = name.localName.bytes := by
  unfold QName.localPart SpelledName.bytes
  cases name.qualifier with
  | none => simp [name.localName.colon_not_mem]
  | some q =>
    rw [List.dropWhile_append_of_pos q.ne_colon]
    simp

/-! ## Attributes -/

namespace Attributes

theorem skipBlank_append (s : Spacing) {b : UInt8} (hb : isBlankByte b = false) (rest : Bytes) :
    skipBlank (s.bytes ++ b :: rest) = b :: rest := by
  rw [skipBlank, List.dropWhile_append_of_pos s.blank, List.dropWhile_cons_of_neg (by simp [hb])]

theorem skipBlank_spacing (s : Spacing) : skipBlank s.bytes = [] := by
  rw [skipBlank, ← List.append_nil s.bytes, List.dropWhile_append_of_pos s.blank]
  rfl

theorem splitQuote_append {quote : UInt8} {raw : Bytes} (h : quote ∉ raw) (rest : Bytes) :
    splitQuote quote (raw ++ quote :: rest) = some (raw, rest) := by
  induction raw with
  | nil => simp [splitQuote]
  | cons b raw ih =>
    have hb : b ≠ quote := by
      rintro rfl
      exact h List.mem_cons_self
    have hraw : quote ∉ raw := fun hmem => h (List.mem_cons_of_mem b hmem)
    simp [splitQuote, hb, ih hraw]

/-- The value of an attribute is read with blanks around the equals sign. -/
theorem readValue?_append (a : SpelledAttribute) (rest : Bytes) :
    readValue? (a.beforeEquals.bytes ++ equalsSign ::
      (a.afterEquals.bytes ++ a.quote :: (a.assignment.raw ++ a.quote :: rest))) =
        some (a.assignment.raw, rest) := by
  have hquote : isBlankByte a.quote = false := by
    rcases a.isQuote with h | h <;> rw [h] <;> rfl
  have hmark : (a.quote == doubleQuote || a.quote == singleQuote) = true := by
    rcases a.isQuote with h | h <;> rw [h] <;> rfl
  have hequals : isBlankByte equalsSign = false := rfl
  simp only [readValue?, skipBlank_append a.beforeEquals hequals]
  simp only [bne_self_eq_false, Bool.false_eq_true, if_false, skipBlank_append a.afterEquals hquote,
    hmark, if_true, splitQuote_append a.closed]

/-- A byte of a name continues the name of an attribute. -/
theorem inName_of_mem {name : SpelledName} {b : UInt8} (h : b ∈ name.bytes) : inName b = true := by
  have hequals : b ≠ equalsSign := SpelledName.ne_of_mem_bytes h (by decide) rfl
  simp [inName, hequals, name.not_blank h]

/-- White space and the equals sign end it. -/
theorem span_inName (name : Bytes) (hname : ∀ b ∈ name, inName b = true) (s : Spacing)
    (rest : Bytes) :
    (name ++ (s.bytes ++ equalsSign :: rest)).takeWhile inName = name ∧
      (name ++ (s.bytes ++ equalsSign :: rest)).dropWhile inName =
        s.bytes ++ equalsSign :: rest := by
  rw [List.takeWhile_append_of_pos hname, List.dropWhile_append_of_pos hname]
  cases hs : s.bytes with
  | nil => simp [show inName equalsSign = false from rfl]
  | cons b more =>
    have hb : inName b = false := by
      simp [inName, s.blank b (hs ▸ List.mem_cons_self)]
    simp [hb]

theorem read?_of_nil {s : Bytes} (h : skipBlank s = []) : read? s = some [] := by
  rw [read?]
  split
  · rfl
  · rename_i heq
    rw [h] at heq
    cases heq

theorem read?_of_value {s tail value after : Bytes} {b : UInt8} (h : skipBlank s = b :: tail)
    (hvalue : readValue? (tail.dropWhile inName) = some (value, after)) :
    read? s = (read? after).map ((b :: tail.takeWhile inName, value) :: ·) := by
  rw [read?]
  split
  · rename_i heq
    rw [h] at heq
    cases heq
  · rename_i heq
    rw [h] at heq
    cases heq
    split
    · rename_i heq
      rw [hvalue] at heq
      cases heq
    · rename_i heq
      rw [hvalue] at heq
      cases heq
      rfl

/-- An attribute is read whatever follows it. -/
theorem read?_cons (a : SpelledAttribute) (rest : Bytes) :
    read? (a.bytes ++ rest) =
      (read? rest).map ((a.assignment.name.bytes, a.assignment.raw) :: ·) := by
  obtain ⟨b, more, hname⟩ := List.exists_cons_of_ne_nil a.assignment.name.bytes_ne_nil
  have hb : isBlankByte b = false := a.assignment.name.not_blank (hname ▸ List.mem_cons_self)
  have hmore : ∀ c ∈ more, inName c = true := fun c hc =>
    inName_of_mem (hname ▸ List.mem_cons_of_mem b hc)
  have hspan := span_inName more hmore a.beforeEquals
    (a.afterEquals.bytes ++ a.quote :: (a.assignment.raw ++ a.quote :: rest))
  have hskip : skipBlank (a.bytes ++ rest) = b :: (more ++ (a.beforeEquals.bytes ++ equalsSign ::
      (a.afterEquals.bytes ++ a.quote :: (a.assignment.raw ++ a.quote :: rest)))) := by
    rw [SpelledAttribute.bytes, hname]
    simp only [List.append_assoc, List.cons_append, List.nil_append]
    exact skipBlank_append a.before hb _
  rw [read?_of_value hskip (by rw [hspan.2]; exact readValue?_append a rest), hspan.1, ← hname]

/-- The attributes of a tag are read in order. -/
theorem read?_eq (attributes : List SpelledAttribute) (trailing : Spacing) :
    read? (attributes.flatMap SpelledAttribute.bytes ++ trailing.bytes) =
      some (attributes.map fun a => (a.assignment.name.bytes, a.assignment.raw)) := by
  induction attributes with
  | nil => exact read?_of_nil (skipBlank_spacing trailing)
  | cons a rest ih =>
    rw [List.flatMap_cons, List.append_assoc, read?_cons, ih]
    rfl

theorem repeats_eq_false {names : List QName} (h : names.Nodup) : repeats names = false := by
  induction names with
  | nil => rfl
  | cons name rest ih =>
    rw [List.nodup_cons] at h
    simp [repeats, h.1, ih h.2]

end Attributes

/-- What a tag assigns, as the reader sees it. -/
def SpelledTag.pairs (tag : SpelledTag) : List (QName × Bytes) :=
  tag.attributes.map fun a => (a.assignment.name.bytes, a.assignment.raw)

/-- A tag is cut where its name ends. -/
theorem TagContent.read_content (tag : SpelledTag) :
    TagContent.read tag.content = .ok ⟨tag.name.bytes, tag.pairs⟩ := by
  have hname : ∀ b ∈ tag.name.bytes, (!isBlankByte b) = true := by
    intro b hb
    simp [tag.name.not_blank hb]
  have hblank : (tag.attributes.flatMap SpelledAttribute.bytes ++ tag.trailing.bytes).takeWhile
      (fun b => !isBlankByte b) = [] := by
    cases htag : tag.attributes with
    | nil =>
      cases h : tag.trailing.bytes with
      | nil => rfl
      | cons b rest => simp [tag.trailing.blank b (h ▸ List.mem_cons_self)]
    | cons a rest =>
      obtain ⟨b, more, h⟩ := List.exists_cons_of_ne_nil a.apart
      simp [SpelledAttribute.bytes, h, a.before.blank b (h ▸ List.mem_cons_self)]
  have htake : tag.content.takeWhile (fun b => !isBlankByte b) = tag.name.bytes := by
    rw [SpelledTag.content, List.takeWhile_append_of_pos hname, hblank, List.append_nil]
  have hdrop : tag.content.drop tag.name.bytes.length =
      tag.attributes.flatMap SpelledAttribute.bytes ++ tag.trailing.bytes := List.drop_left
  have hdistinct : Attributes.repeats (tag.pairs.map (·.1)) = false := by
    apply Attributes.repeats_eq_false
    rw [SpelledTag.pairs, List.map_map]
    exact tag.distinct
  unfold TagContent.read
  rw [htake]
  dsimp only
  rw [hdrop, Attributes.read?_eq]
  dsimp only
  rw [← SpelledTag.pairs, hdistinct]
  rfl

/-! ## Declarations -/

/-- What an assignment declares. -/
theorem Declared.ofName?_binding (b : SpelledBinding) :
    Declared.ofName? (Assignment.declares b).name.bytes =
      some (b.qualifier.elim .default fun q => .named q.bytes) := by
  obtain ⟨qualifier, uri, allowed⟩ := b
  cases qualifier with
  | none => rfl
  | some q =>
    have hne : (ascii "xmlns" ++ QName.colon :: q.bytes == ascii "xmlns") = false := rfl
    have hprefix : (ascii "xmlns:").isPrefixOf (ascii "xmlns" ++ QName.colon :: q.bytes) = true :=
      rfl
    show Declared.ofName? (ascii "xmlns" ++ QName.colon :: q.bytes) = some (.named q.bytes)
    rw [Declared.ofName?, hne, if_neg (by decide), if_pos hprefix]
    rfl

/-- A declaration binds its prefix for what follows. -/
theorem Bindings.declareAll_of_declared {bindings next : Bindings} {name : QName} {uri : Bytes}
    {declared : Declared} (h : Declared.ofName? name = some declared)
    (hnext : bindings.declare declared uri = .ok next) (rest : List (QName × Bytes)) :
    bindings.declareAll ((name, uri) :: rest) = next.declareAll rest := by
  simp [declareAll, h, hnext, bind, Except.bind]

theorem Bindings.declareAll_of_plain {bindings : Bindings} {name : QName} {value : Bytes}
    (h : Declared.ofName? name = none) (rest : List (QName × Bytes)) :
    bindings.declareAll ((name, value) :: rest) = bindings.declareAll rest := by
  simp [declareAll, h, bind, Except.bind]

/-- The reader's list of bindings says the same as a scope. The prefix `xml` is remembered because a
declaration of it adds nothing to the list. -/
structure Bindings.Agrees (bindings : Bindings) (scope : NamespaceScope) : Prop where
  lookup : ∀ qualifier, bindings.lookup? qualifier = scope qualifier
  reserved : scope (some (ascii "xml")) = some xmlNamespace

namespace Bindings.Agrees

variable {bindings : Bindings} {scope : NamespaceScope}

theorem initial : Bindings.initial.Agrees NamespaceScope.outermost where
  lookup qualifier := by
    unfold NamespaceScope.outermost lookup? Bindings.initial
    by_cases hxml : qualifier = some (ascii "xml")
    · subst hxml
      rfl
    · by_cases hxmlns : qualifier = some (ascii "xmlns")
      · subst hxmlns
        rfl
      · simp [hxml, hxmlns, Ne.symm hxml, Ne.symm hxmlns]
  reserved := rfl

theorem push (h : bindings.Agrees scope) {target : Option Bytes} (uri : Bytes)
    (htarget : target ≠ some (ascii "xml")) :
    Bindings.Agrees ⟨(target, uri) :: bindings.entries⟩ (scope.bind target uri) where
  lookup qualifier := by
    rw [NamespaceScope.bind, ← h.lookup]
    by_cases hq : qualifier = target
    · simp [lookup?, hq]
    · simp [lookup?, hq, Ne.symm hq]
  reserved := by
    rw [NamespaceScope.bind, if_neg (Ne.symm htarget)]
    exact h.reserved

theorem declare (h : bindings.Agrees scope) (b : SpelledBinding) :
    ∃ inner,
      bindings.declare (b.qualifier.elim .default fun q => .named q.bytes) b.uri = .ok inner ∧
      inner.Agrees (scope.assign (.declares b)) := by
  obtain ⟨qualifier, uri, allowed⟩ := b
  cases qualifier with
  | none => exact ⟨_, rfl, h.push uri nofun⟩
  | some q =>
    show ∃ inner, bindings.declare (.named q.bytes) uri = .ok inner ∧
      inner.Agrees (scope.bind (some q.bytes) uri)
    -- A declaration of `xml` leaves the list as it is; the scope has that binding from the start.
    rcases allowed q rfl with ⟨hq, rfl⟩ | ⟨hxml, hxmlns, huri, huri'⟩
    · refine ⟨bindings, by simp [Bindings.declare, hq], ?_, ?_⟩
      · intro qualifier
        rw [NamespaceScope.bind, hq]
        split
        · rename_i heq
          rw [heq, h.lookup, h.reserved]
          rfl
        · exact h.lookup qualifier
      · rw [NamespaceScope.bind, if_pos (by rw [hq])]
        rfl
    · refine ⟨⟨(some q.bytes, uri) :: bindings.entries⟩, ?_, h.push uri (by simpa using hxml)⟩
      simp [Bindings.declare, hxml, hxmlns, huri, huri', q.ne_nil]

/-- All declarations of a tag are bound as the scope says. -/
theorem declareAll (h : bindings.Agrees scope) (attributes : List SpelledAttribute) :
    ∃ inner, bindings.declareAll
        (attributes.map fun a => (a.assignment.name.bytes, a.assignment.raw)) = .ok inner ∧
      inner.Agrees ((attributes.map (·.assignment)).foldl NamespaceScope.assign scope) := by
  induction attributes generalizing bindings scope with
  | nil => exact ⟨bindings, rfl, h⟩
  | cons a rest ih =>
    rw [List.map_cons, List.map_cons, List.foldl_cons]
    cases ha : a.assignment with
    | declares b =>
      obtain ⟨next, hnext, hagrees⟩ := h.declare b
      obtain ⟨inner, hinner, hdone⟩ := ih hagrees
      have hfirst := declareAll_of_declared (Declared.ofName?_binding b) hnext
      exact ⟨inner, (hfirst _).trans hinner, hdone⟩
    | gives value =>
      obtain ⟨inner, hinner, hdone⟩ := ih h
      exact ⟨inner, (declareAll_of_plain value.plain _).trans hinner, hdone⟩

end Bindings.Agrees

/-! ## What a tag says -/

theorem Event.decodeAttributes_of_declared {name : QName} {uri : Bytes} {declared : Declared}
    (h : Declared.ofName? name = some declared) (rest : List (QName × Bytes)) :
    decodeAttributes ((name, uri) :: rest) = decodeAttributes rest := by
  simp [decodeAttributes, h]

theorem Event.decodeAttributes_of_plain {name : QName} {raw : Bytes} {value : String}
    (h : Declared.ofName? name = none) (hread : decodeText raw = .ok value)
    (rest : List (QName × Bytes)) :
    decodeAttributes ((name, raw) :: rest) =
      (decodeAttributes rest).map (⟨Utf8.decodeLossy name.localPart, value⟩ :: ·) := by
  simp [decodeAttributes, h, hread, Except.map, bind, Except.bind, pure, Except.pure]

/-- The plain attributes of a tag are decoded, and its declarations left out. -/
theorem Event.decodeAttributes_eq (tag : SpelledTag) :
    decodeAttributes tag.pairs = .ok tag.plainAttributes := by
  unfold SpelledTag.pairs SpelledTag.plainAttributes
  induction tag.attributes with
  | nil => rfl
  | cons a rest ih =>
    rw [List.map_cons, List.filterMap_cons]
    cases ha : a.assignment with
    | declares b => exact (decodeAttributes_of_declared (Declared.ofName?_binding b) _).trans ih
    | gives value =>
      refine (decodeAttributes_of_plain value.plain value.reads _).trans ?_
      rw [ih, QName.localPart_bytes]
      rfl

/-- A tag is read for what it says, and its content is read in the scope it opens. -/
theorem Event.readTag_eq {bindings : Bindings} {scope : NamespaceScope} (h : bindings.Agrees scope)
    (tag : SpelledTag) :
    ∃ inner, readTag bindings tag.content = .ok (tag.name.bytes, tag.read scope, inner) ∧
      inner.Agrees (scope.enter tag) := by
  obtain ⟨inner, hinner, hagrees⟩ := h.declareAll tag.attributes
  refine ⟨inner, ?_, hagrees⟩
  have hresolve : inner.resolve? tag.name.bytes = scope.enter tag tag.name.qualifierBytes := by
    rw [Bindings.resolve?, QName.qualifier?_bytes, hagrees.lookup]
    rfl
  unfold readTag
  rw [TagContent.read_content]
  show (bindings.declareAll tag.pairs >>= _) = _
  rw [SpelledTag.pairs, hinner]
  show (decodeAttributes tag.pairs >>= _) = _
  rw [decodeAttributes_eq, hresolve, QName.localPart_bytes]
  rfl

end CubeClient.Xml
