import CubeClient.Proofs.Xml.Spelling

/-!
# Where the pieces of a document end

`Markup.scan` cuts a document where its writer meant it to be cut. For each kind of markup there is
one lemma about `readBracket`, given the spelled piece and any bytes behind it.

A tag ends at the first bracket outside quotes. `PassesTag` holds of bytes that such a bracket is
looked for behind: it is closed under concatenation, so that it goes through a tag part by part.
-/

namespace CubeClient.Xml

open CubeClient.Text Markup

/-! ## Bytes of names -/

theorem ne_of_isNameByte {b x : UInt8} (hb : isNameByte b = true) (hx : isNameByte x = false) :
    b ≠ x := by
  rintro rfl
  rw [hb] at hx
  cases hx

theorem isBlankByte_of_isNameByte {b : UInt8} (h : isNameByte b = true) :
    isBlankByte b = false := by
  simp only [isNameByte, Bool.and_eq_true, Bool.not_eq_true'] at h
  exact h.1

/-- A byte of a qualified name is a colon or stands in one of its parts. -/
theorem SpelledName.mem_bytes {name : SpelledName} {b : UInt8} (h : b ∈ name.bytes) :
    b = QName.colon ∨ isNameByte b = true := by
  unfold bytes at h
  split at h
  · exact .inr (name.localName.isName b h)
  · rename_i q _
    rcases List.mem_append.mp h with h | h
    · exact .inr (q.isName b h)
    · rcases List.mem_cons.mp h with h | h
      · exact .inl h
      · exact .inr (name.localName.isName b h)

theorem SpelledName.bytes_ne_nil (name : SpelledName) : name.bytes ≠ [] := by
  unfold bytes
  split
  · exact name.localName.ne_nil
  · simp

/-- A byte that no name holds. -/
theorem SpelledName.ne_of_mem_bytes {name : SpelledName} {b x : UInt8} (h : b ∈ name.bytes)
    (hcolon : x ≠ QName.colon) (hx : isNameByte x = false) : b ≠ x := by
  rcases mem_bytes h with rfl | hb
  · exact hcolon.symm
  · exact ne_of_isNameByte hb hx

theorem SpelledName.not_blank {name : SpelledName} {b : UInt8} (h : b ∈ name.bytes) :
    isBlankByte b = false := by
  rcases mem_bytes h with rfl | hb
  · rfl
  · exact isBlankByte_of_isNameByte hb

theorem isBlankByte_cases {b : UInt8} (h : isBlankByte b = true) :
    b = 0x20 ∨ b = 0x09 ∨ b = 0x0A ∨ b = 0x0D := by
  simpa [isBlankByte, or_assoc] using h

theorem Spacing.ne_of_mem {s : Spacing} {b x : UInt8} (h : b ∈ s.bytes)
    (hx : isBlankByte x = false) : b ≠ x := by
  rintro rfl
  rw [s.blank b h] at hx
  cases hx

/-! ## The end of a tag -/

/-- The bracket that ends a tag is looked for behind these bytes. -/
def PassesTag (x : Bytes) : Prop :=
  ∀ s, splitTag none (x ++ s) = (splitTag none s).map fun (content, after) => (x ++ content, after)

namespace PassesTag

theorem nil : PassesTag [] := by
  intro s
  simp

theorem append {x y : Bytes} (hx : PassesTag x) (hy : PassesTag y) : PassesTag (x ++ y) := by
  intro s
  rw [List.append_assoc, hx, hy, Option.map_map]
  simp [Function.comp_def]

theorem cons {b : UInt8} {x : Bytes} (hb : b ≠ greaterThan) (hs : b ≠ singleQuote)
    (hd : b ≠ doubleQuote) (hx : PassesTag x) : PassesTag (b :: x) := by
  intro s
  simp [splitTag, hb, hs, hd, hx s, Function.comp_def]

theorem of_forall {x : Bytes}
    (h : ∀ b ∈ x, b ≠ greaterThan ∧ b ≠ singleQuote ∧ b ≠ doubleQuote) : PassesTag x := by
  induction x with
  | nil => exact nil
  | cons b x ih =>
    have hb := h b List.mem_cons_self
    exact cons hb.1 hb.2.1 hb.2.2 (ih fun c hc => h c (List.mem_cons_of_mem b hc))

/-- Inside quotes a bracket ends nothing. -/
theorem splitTag_quote {quote : UInt8} {raw : Bytes} (h : quote ∉ raw) (s : Bytes) :
    splitTag (some quote) (raw ++ quote :: s) =
      (splitTag none s).map fun (content, after) => (raw ++ quote :: content, after) := by
  induction raw with
  | nil => simp [splitTag]
  | cons b raw ih =>
    have hb : b ≠ quote := fun heq => h (heq ▸ List.mem_cons_self)
    have hraw : quote ∉ raw := fun hmem => h (List.mem_cons_of_mem b hmem)
    simp [splitTag, hb, ih hraw, Function.comp_def]

/-- A quoted text is passed over, whatever is inside. -/
theorem quoted {quote : UInt8} {raw : Bytes} (hq : quote = doubleQuote ∨ quote = singleQuote)
    (h : quote ∉ raw) : PassesTag (quote :: (raw ++ [quote])) := by
  intro s
  have hne : quote ≠ greaterThan := by rcases hq with rfl | rfl <;> decide
  have hquote : (quote == singleQuote || quote == doubleQuote) = true := by
    rcases hq with rfl | rfl <;> decide
  simp only [List.cons_append, List.append_assoc, List.nil_append, splitTag, beq_iff_eq, hne,
    if_false, hquote, if_true, splitTag_quote h, Option.map_map]
  simp [Function.comp_def]

/-- A tag ends at the first closing bracket outside quotes. -/
theorem splitTag_eq {x : Bytes} (h : PassesTag x) (rest : Bytes) :
    splitTag none (x ++ greaterThan :: rest) = some (x, rest) := by
  rw [h]
  simp [splitTag]

end PassesTag

theorem Spacing.passes (s : Spacing) : PassesTag s.bytes :=
  .of_forall fun _ hb => ⟨s.ne_of_mem hb rfl, s.ne_of_mem hb rfl, s.ne_of_mem hb rfl⟩

theorem SpelledName.passes (name : SpelledName) : PassesTag name.bytes :=
  .of_forall fun _ hb => ⟨ne_of_mem_bytes hb (by decide) rfl, ne_of_mem_bytes hb (by decide) rfl,
    ne_of_mem_bytes hb (by decide) rfl⟩

theorem SpelledAttribute.passes (a : SpelledAttribute) : PassesTag a.bytes := by
  have hvalue := PassesTag.quoted a.isQuote a.closed
  have hequals := PassesTag.cons (b := Attributes.equalsSign) (by decide) (by decide) (by decide)
    (a.afterEquals.passes.append hvalue)
  exact a.before.passes.append
    (a.assignment.name.passes.append (a.beforeEquals.passes.append hequals))

/-- Nothing in a tag ends it. -/
theorem SpelledTag.passes (tag : SpelledTag) : PassesTag tag.content := by
  refine tag.name.passes.append (.append ?_ tag.trailing.passes)
  induction tag.attributes with
  | nil => exact .nil
  | cons a rest ih => exact a.passes.append ih

/-! ## Tags -/

/-- A tag begins with a byte of its name. -/
theorem SpelledTag.exists_content_eq (tag : SpelledTag) :
    ∃ b rest, tag.content = b :: rest ∧ b ∈ tag.name.bytes := by
  obtain ⟨b, rest, h⟩ := List.exists_cons_of_ne_nil tag.name.bytes_ne_nil
  refine ⟨b, rest ++ (tag.attributes.flatMap SpelledAttribute.bytes ++ tag.trailing.bytes), ?_, ?_⟩
  · rw [content, h, List.cons_append]
  · rw [h]
    exact List.mem_cons_self

theorem SpelledAttribute.getLast?_bytes (a : SpelledAttribute) :
    a.bytes.getLast? = some a.quote := by
  simp [bytes, List.getLast?_append, List.getLast?_cons]

theorem SpelledAttribute.getLast?_ne_slash (attributes : List SpelledAttribute) :
    (attributes.flatMap bytes).getLast? ≠ some slash := by
  induction attributes with
  | nil => simp
  | cons a rest ih =>
    have hquote : a.quote ≠ slash := by rcases a.isQuote with h | h <;> rw [h] <;> decide
    rw [List.flatMap_cons, List.getLast?_append, a.getLast?_bytes]
    cases h : (rest.flatMap bytes).getLast? with
    | none => simpa using hquote
    | some b => simpa [h] using ih

/-- No start tag is taken for an empty one. -/
theorem SpelledTag.getLast?_content_ne (tag : SpelledTag) : tag.content.getLast? ≠ some slash := by
  rw [content, List.getLast?_append, List.getLast?_append]
  cases htrailing : tag.trailing.bytes.getLast? with
  | some b =>
    have hb : b ≠ slash := tag.trailing.ne_of_mem (List.mem_of_getLast? htrailing) rfl
    simpa using hb
  | none =>
    cases hattributes : (tag.attributes.flatMap SpelledAttribute.bytes).getLast? with
    | some b => simpa [hattributes] using SpelledAttribute.getLast?_ne_slash tag.attributes
    | none =>
      intro hname
      exact SpelledName.ne_of_mem_bytes (List.mem_of_getLast? hname) (by decide) rfl rfl

theorem readBracket_tag (tag : SpelledTag) {closing : Bytes} (hclosing : PassesTag closing)
    (rest : Bytes) :
    readBracket (tag.content ++ (closing ++ greaterThan :: rest)) =
      .ok (ofTagContent (tag.content ++ closing), rest) := by
  have hsplit := (tag.passes.append hclosing).splitTag_eq rest
  obtain ⟨b, inner, heq, hb⟩ := tag.exists_content_eq
  have hbang : b ≠ bang := SpelledName.ne_of_mem_bytes hb (by decide) rfl
  have hslash : b ≠ slash := SpelledName.ne_of_mem_bytes hb (by decide) rfl
  have hquestion : b ≠ question := SpelledName.ne_of_mem_bytes hb (by decide) rfl
  rw [List.append_assoc] at hsplit
  rw [heq] at hsplit ⊢
  simp only [List.cons_append] at hsplit ⊢
  simp only [readBracket, beq_iff_eq, hbang, hslash, hquestion, if_false, hsplit]

/-- A start tag is found as it is spelled. -/
theorem readBracket_startTag (tag : SpelledTag) (rest : Bytes) :
    readBracket (tag.content ++ (ascii ">" ++ rest)) = .ok (.startTag tag.content, rest) := by
  have h := readBracket_tag tag .nil rest
  rw [List.append_nil, ofTagContent, if_neg (by simpa using tag.getLast?_content_ne)] at h
  exact h

/-- An empty one is told by the slash at its end. -/
theorem readBracket_emptyTag (tag : SpelledTag) (rest : Bytes) :
    readBracket (tag.content ++ (ascii "/>" ++ rest)) = .ok (.emptyTag tag.content, rest) := by
  have hslash : PassesTag [slash] := .cons (by decide) (by decide) (by decide) .nil
  have h := readBracket_tag tag hslash rest
  rw [ofTagContent, List.getLast?_concat, if_pos (by decide), List.dropLast_concat] at h
  exact h

theorem endTagName_eq (name : SpelledName) (closing : Spacing) :
    endTagName (name.bytes ++ closing.bytes) = name.bytes := by
  have hsome : (name.bytes ++ closing.bytes).all isBlankByte = false := by
    obtain ⟨b, rest, h⟩ := List.exists_cons_of_ne_nil name.bytes_ne_nil
    have hb : isBlankByte b = false := name.not_blank (h ▸ List.mem_cons_self)
    simp [h, hb]
  have hclosing : ∀ b ∈ closing.bytes.reverse, isBlankByte b = true := fun b hb =>
    closing.blank b (List.mem_reverse.mp hb)
  have hname : name.bytes.reverse.dropWhile isBlankByte = name.bytes.reverse := by
    obtain ⟨b, rest, h⟩ :=
      List.exists_cons_of_ne_nil (List.reverse_ne_nil_iff.mpr name.bytes_ne_nil)
    have hb : isBlankByte b = false :=
      name.not_blank (List.mem_reverse.mp (h ▸ List.mem_cons_self))
    rw [h, List.dropWhile_cons_of_neg (by simp [hb])]
  rw [endTagName, hsome, if_neg (by decide), List.reverse_append,
    List.dropWhile_append_of_pos hclosing, hname, List.reverse_reverse]

/-- An end tag is its name, whatever blanks are behind it. -/
theorem readBracket_endTag (name : SpelledName) (closing : Spacing) (rest : Bytes) :
    readBracket (slash :: (name.bytes ++ (closing.bytes ++ (ascii ">" ++ rest)))) =
      .ok (.endTag name.bytes, rest) := by
  have hsplit := (name.passes.append closing.passes).splitTag_eq rest
  rw [List.append_assoc] at hsplit
  have hend : ascii ">" ++ rest = greaterThan :: rest := rfl
  rw [hend]
  simp only [readBracket, hsplit, endTagName_eq]
  rfl

/-! ## Remarks and CDATA sections -/

/-- The closing bracket is the one at the end, if `closes` does not hold at any before it. -/
theorem splitClose_append {closes : Bytes → Bool} {body rest : Bytes} :
    ∀ {before : Bytes}, closes (body.reverse ++ before) = true →
      (∀ front, front ++ [greaterThan] <+: body → closes (front.reverse ++ before) = false) →
      splitClose closes before (body ++ greaterThan :: rest) =
        some (before.reverse ++ body, rest) := by
  induction body with
  | nil =>
    intro before hend _
    rw [List.reverse_nil, List.nil_append] at hend
    simp [splitClose, hend]
  | cons b body ih =>
    intro before hend hinside
    have hb : (b == greaterThan && closes before) = false := by
      by_cases hb : b = greaterThan
      · have hfront := hinside [] ⟨body, by rw [hb]; rfl⟩
        simpa using fun _ => hfront
      · simp [hb]
    have hmore := @ih (b :: before) (by simpa using hend) (by
      intro front hfront
      have := hinside (b :: front) (by simpa using hfront)
      simpa using this)
    rw [List.cons_append, splitClose, hb, if_neg (by decide), hmore]
    simp

/-- What ends in a byte that does not come later ends before that. -/
theorem prefix_of_not_mem {front x y : Bytes} {b : UInt8} (h : front ++ [b] <+: x ++ y)
    (hb : b ∉ y) : front ++ [b] <+: x := by
  rcases List.prefix_or_prefix_of_prefix h (List.prefix_append x y) with hshort | ⟨tail, htail⟩
  · exact hshort
  · cases htail' : tail.reverse with
    | nil =>
      rw [List.reverse_eq_nil_iff.mp htail', List.append_nil] at htail
      exact ⟨[], by rw [List.append_nil, htail]⟩
    | cons c more =>
      have hsplit : tail = more.reverse ++ [c] := by
        rw [← List.reverse_reverse tail, htail', List.reverse_cons]
      have hlast : b = c := by
        have := congrArg List.getLast? htail
        rw [hsplit, ← List.append_assoc, List.getLast?_concat, List.getLast?_concat] at this
        exact (Option.some.inj this).symm
      rw [← htail] at h
      have hmem : c ∈ y := ((List.prefix_append_right_inj x).mp h).subset (by simp [hsplit])
      exact absurd (hlast ▸ hmem) hb

/-- What begins with a byte that did not come before begins behind it. -/
theorem exists_of_not_mem {front header x y : Bytes} {b : UInt8}
    (h : front ++ b :: y <+: header ++ x) (hb : b ∉ header) :
    ∃ more, front = header ++ more ∧ more ++ b :: y <+: x := by
  have hfront : front <+: header ++ x := (List.prefix_append front _).trans h
  rcases List.prefix_or_prefix_of_prefix hfront (List.prefix_append header x) with
    ⟨tail, rfl⟩ | ⟨more, rfl⟩
  · rw [List.append_assoc, List.prefix_append_right_inj] at h
    cases tail with
    | nil => exact ⟨[], by simp, h⟩
    | cons c tail =>
      obtain ⟨rfl, -⟩ := List.cons_prefix_cons.mp h
      exact absurd (by simp) hb
  · rw [List.append_assoc, List.prefix_append_right_inj] at h
    exact ⟨more, rfl, h⟩

theorem eq_append_of_take_reverse {front : Bytes} {b c : UInt8}
    (h : front.reverse.take 2 = [c, b]) : ∃ more, front = more ++ [b, c] := by
  match hf : front.reverse with
  | [] | [_] => simp [hf] at h
  | x :: y :: more =>
    rw [hf] at h
    simp only [List.take_succ_cons, List.take_zero, List.cons.injEq, and_true] at h
    obtain ⟨rfl, rfl⟩ := h
    exact ⟨more.reverse, by rw [← List.reverse_reverse front, hf]; simp⟩

/-- A comment ends at the first two hyphens that it is closed with. -/
theorem splitClose_comment {body : Bytes} (closed : ¬ [hyphen, hyphen] <:+: body ++ [hyphen])
    (rest : Bytes) :
    splitClose Declaration.comment.closes []
        ((ascii "!--" ++ (body ++ [hyphen, hyphen])) ++ greaterThan :: rest) =
      some (ascii "!--" ++ (body ++ [hyphen, hyphen]), rest) := by
  refine splitClose_append ?_ ?_
  · simp [Declaration.closes, ascii]
  · intro front hfront
    rw [List.append_nil, ← Bool.not_eq_true]
    intro hcloses
    simp only [Declaration.closes, Bool.and_eq_true, decide_eq_true_eq, beq_iff_eq,
      List.length_reverse] at hcloses
    obtain ⟨more, rfl⟩ := eq_append_of_take_reverse hcloses.2
    rw [← List.append_assoc] at hfront
    have hshort := prefix_of_not_mem hfront (by decide)
    -- the two hyphens stand behind those that begin the comment
    have hheader : ascii "!--" <+: more :=
      List.prefix_of_prefix_length_le (List.prefix_append _ body)
        (((List.prefix_append more _).trans (List.prefix_append _ _)).trans hshort) (by
          have := hcloses.1
          simp only [List.length_append, List.length_cons, List.length_nil] at this
          exact show 3 ≤ more.length by omega)
    obtain ⟨inner, rfl⟩ := hheader
    rw [List.append_assoc, List.append_assoc, List.prefix_append_right_inj] at hshort
    obtain ⟨tail, htail⟩ := hshort
    exact closed ⟨inner, greaterThan :: (tail ++ [hyphen]), by rw [← htail]; simp⟩

theorem splitClose_instruction {body : Bytes}
    (closed : ¬ [question, greaterThan] <:+: question :: body) (rest : Bytes) :
    splitClose (fun before => before.head? == some question) []
        ((question :: body ++ [question]) ++ greaterThan :: rest) =
      some (question :: body ++ [question], rest) := by
  refine splitClose_append ?_ ?_
  · simp
  · intro front hfront
    rw [List.append_nil, ← Bool.not_eq_true]
    intro hcloses
    have hshort := prefix_of_not_mem hfront (by decide)
    rw [beq_iff_eq, List.head?_reverse] at hcloses
    obtain ⟨more, rfl⟩ := List.getLast?_eq_some_iff.mp hcloses
    obtain ⟨tail, htail⟩ := hshort
    exact closed ⟨more, tail, by rw [← htail]; simp⟩

/-- A document type ends where its brackets are balanced. -/
theorem splitClose_documentType {body : Bytes}
    (nested : ∀ front, front <+: body → front.count greaterThan ≤ front.count lessThan)
    (closed : body.count greaterThan = body.count lessThan) (rest : Bytes) :
    splitClose Declaration.documentType.closes []
        ((ascii "!DOCTYPE" ++ body) ++ greaterThan :: rest) =
      some (ascii "!DOCTYPE" ++ body, rest) := by
  have hheader : (ascii "!DOCTYPE").count lessThan = 0 ∧
      (ascii "!DOCTYPE").count greaterThan = 0 := by decide
  refine splitClose_append ?_ ?_
  · simp [Declaration.closes, hheader, closed]
  · intro front hfront
    obtain ⟨more, rfl, hmore⟩ := exists_of_not_mem hfront (by decide)
    have hcount := nested _ hmore
    simp only [List.count_append, List.count_singleton_self, List.count_singleton] at hcount
    simp [Declaration.closes, hheader]
    rw [if_neg (by decide)] at hcount
    omega

/-- A section ends at its first two closing brackets. -/
theorem splitClose_cdata (piece : SpelledSection) (rest : Bytes) :
    splitClose Declaration.cdata.closes []
        ((ascii "![CDATA[" ++ (piece.raw ++ [closeBracket, closeBracket])) ++ greaterThan :: rest) =
      some (ascii "![CDATA[" ++ (piece.raw ++ [closeBracket, closeBracket]), rest) := by
  refine splitClose_append ?_ ?_
  · simp [Declaration.closes, ascii]
  · intro front hfront
    rw [List.append_nil, ← Bool.not_eq_true]
    intro hcloses
    simp only [Declaration.closes, beq_iff_eq] at hcloses
    obtain ⟨more, rfl⟩ := eq_append_of_take_reverse hcloses
    rw [← List.append_assoc] at hfront
    have hshort := prefix_of_not_mem hfront (by decide)
    simp only [List.append_assoc, List.cons_append, List.nil_append] at hshort
    obtain ⟨inner, rfl, tail, htail⟩ := exists_of_not_mem hshort (by decide)
    exact piece.closed ⟨inner, tail, htail⟩

/-- A declaration is read by its kind, up to where that closes. -/
theorem readBracket_declaration {kind : Declaration} {k : UInt8} {more content after : Bytes}
    {piece : Markup} (hkind : Declaration.ofByte? k = some kind)
    (hsplit : splitClose kind.closes [] (bang :: k :: more) = some (content, after))
    (hread : kind.read content = .ok piece) :
    readBracket (bang :: k :: more) = .ok (piece, after) := by
  simp [readBracket, hkind, hsplit, hread, Except.map]

theorem readBracket_instruction {more content after : Bytes}
    (hsplit : splitClose (fun before => before.head? == some question) [] (question :: more) =
      some (content, after)) (hlength : 1 < content.length) :
    readBracket (question :: more) = .ok (.skipped, after) := by
  simp [readBracket, hsplit, hlength, show (question == bang) = false from rfl,
    show (question == slash) = false from rfl]

/-- Every remark is skipped. -/
theorem readBracket_remark (remark : Remark) (rest : Bytes) :
    ∃ inner, remark.bytes = lessThan :: inner ∧
      readBracket (inner ++ rest) = .ok (.skipped, rest) := by
  cases remark with
  | comment body closed =>
    refine ⟨ascii "!--" ++ (body ++ ascii "-->"), rfl, ?_⟩
    have hsplit := splitClose_comment closed rest
    have hread : Declaration.comment.read (ascii "!--" ++ (body ++ [hyphen, hyphen])) =
        .ok .skipped := rfl
    simp only [List.append_assoc] at hsplit ⊢
    exact readBracket_declaration rfl hsplit hread
  | instruction body closed =>
    refine ⟨question :: (body ++ ascii "?>"), rfl, ?_⟩
    have hsplit := splitClose_instruction closed rest
    simp only [List.cons_append, List.append_assoc] at hsplit ⊢
    exact readBracket_instruction hsplit (by simp)
  | documentType body named nested closed =>
    refine ⟨ascii "!DOCTYPE" ++ (body ++ ascii ">"), rfl, ?_⟩
    have hsplit := splitClose_documentType nested closed rest
    have hread : Declaration.documentType.read (ascii "!DOCTYPE" ++ body) = .ok .skipped := by
      have hblank : body.all isBlankByte = false := by
        obtain ⟨b, hb, hbody⟩ := named
        exact List.all_eq_false.mpr ⟨b, hb, by rw [hbody]; decide⟩
      have hdrop : (ascii "!DOCTYPE" ++ body).drop 8 = body := rfl
      have hprefix : (ascii "!doctype").isPrefixOf ((ascii "!DOCTYPE" ++ body).map lowerByte) =
          true := rfl
      rw [Declaration.read, if_pos hprefix, hdrop, hblank, if_neg (by decide)]
    simp only [List.append_assoc] at hsplit ⊢
    exact readBracket_declaration rfl hsplit hread

theorem readBracket_cdata (piece : SpelledSection) (rest : Bytes) :
    readBracket (ascii "![CDATA[" ++ (piece.raw ++ (ascii "]]>" ++ rest))) =
      .ok (.cdata piece.raw, rest) := by
  have hsplit := splitClose_cdata piece rest
  have hread : Declaration.cdata.read
      (ascii "![CDATA[" ++ (piece.raw ++ [closeBracket, closeBracket])) =
        .ok (.cdata piece.raw) := by
    simp [Declaration.read, ascii]
  simp only [List.append_assoc] at hsplit ⊢
  exact readBracket_declaration rfl hsplit hread

/-! ## Pieces -/

/-- A piece of markup is scanned before what follows. -/
theorem scan_markup {s rest : Bytes} {piece : Markup} (h : readBracket s = .ok (piece, rest)) :
    scan (lessThan :: s) = (piece :: (scan rest).1, (scan rest).2) := by
  rw [scan, if_pos (by decide)]
  split
  · rename_i fault heq
    rw [h] at heq
    cases heq
  · rename_i piece' rest' heq
    rw [h] at heq
    cases heq
    rfl

/-- The bytes begin with markup, or there are none. -/
def AtMarkup (s : Bytes) : Prop :=
  ∀ b ∈ s.head?, b = lessThan

/-- A text ends where markup begins. -/
theorem scan_text {raw rest : Bytes} (hraw : lessThan ∉ raw) (hne : raw ≠ [])
    (hrest : AtMarkup rest) :
    scan (raw ++ rest) = (.text raw :: (scan rest).1, (scan rest).2) := by
  have hinert : ∀ b ∈ raw, (b != lessThan) = true := by
    intro b hb
    rw [bne_iff_ne]
    rintro rfl
    exact hraw hb
  obtain ⟨b, more, rfl⟩ := List.exists_cons_of_ne_nil hne
  have hb : (b == lessThan) = false := by simpa using hinert b List.mem_cons_self
  have hmore : ∀ c ∈ more, (c != lessThan) = true := fun c hc =>
    hinert c (List.mem_cons_of_mem b hc)
  have hspan : (more ++ rest).takeWhile (· != lessThan) = more ∧
      (more ++ rest).dropWhile (· != lessThan) = rest := by
    rw [List.takeWhile_append_of_pos hmore, List.dropWhile_append_of_pos hmore]
    cases rest with
    | nil => simp
    | cons c rest =>
      obtain rfl := hrest c rfl
      simp
  rw [List.cons_append, scan, hb, if_neg (by decide), hspan.1, hspan.2]

end CubeClient.Xml
