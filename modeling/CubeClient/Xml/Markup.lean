import CubeClient.Text.Utf8

/-!
# Markup in bytes

The first look at a document cuts its bytes into markup: text, tags, CDATA sections, and what a
reader skips (comments, declarations, processing instructions, the document type). Nothing is
decoded and no name is checked here; only where each piece ends is decided.

`scan` answers all pieces up to the first one that does not end, and why that one does not. It comes
to an end because every piece takes at least one byte.
-/

namespace CubeClient.Xml

open CubeClient.Text

/-- Why bytes are not well-formed XML. -/
inductive MarkupFault where
  | unclosedTag
  | unclosedDeclaration
  | unclosedInstruction
  | unknownDeclaration
  | unnamedDocumentType
  | mismatchedEndTag
  | attributeSyntax
  | repeatedAttribute
  | badReference
  | notUtf8
  | reservedNamespace
  deriving DecidableEq, Repr

/-- A piece of a document. Tags are kept without their brackets, an empty tag without its slash and
an end tag as its bare name. -/
inductive Markup where
  | text (raw : Bytes)
  | startTag (content : Bytes)
  | emptyTag (content : Bytes)
  | endTag (name : Bytes)
  | cdata (raw : Bytes)
  | skipped
  deriving DecidableEq, Repr

namespace Markup

/-- The bytes of an ASCII text. -/
def ascii (s : String) : Bytes :=
  s.toList.map fun c => c.toNat.toUInt8

/-- `<` -/
def lessThan : UInt8 := 0x3C

/-- `>` -/
def greaterThan : UInt8 := 0x3E

/-- `!` -/
def bang : UInt8 := 0x21

/-- `?` -/
def question : UInt8 := 0x3F

/-- `/` -/
def slash : UInt8 := 0x2F

/-- `-` -/
def hyphen : UInt8 := 0x2D

/-- `[` -/
def openBracket : UInt8 := 0x5B

/-- `]` -/
def closeBracket : UInt8 := 0x5D

/-- `'` -/
def singleQuote : UInt8 := 0x27

/-- `"` -/
def doubleQuote : UInt8 := 0x22

/-- The four characters XML calls white space. -/
def isBlankByte (b : UInt8) : Bool :=
  b == 0x20 || b == 0x09 || b == 0x0A || b == 0x0D

/-- Cuts at the bracket that ends a tag. A bracket between quotes ends nothing; `quote` is the quote
that is open. -/
def splitTag : Option UInt8 → Bytes → Option (Bytes × Bytes)
  | _, [] => none
  | none, b :: rest =>
    if b == greaterThan then some ([], rest)
    else
      let quote := if b == singleQuote || b == doubleQuote then some b else none
      (splitTag quote rest).map fun (content, after) => (b :: content, after)
  | some q, b :: rest =>
    let quote := if b == q then none else some q
    (splitTag quote rest).map fun (content, after) => (b :: content, after)

theorem length_lt_of_splitTag {quote : Option UInt8} {s content after : Bytes}
    (h : splitTag quote s = some (content, after)) : after.length < s.length := by
  induction s generalizing quote content after with
  | nil => cases quote <;> simp [splitTag] at h
  | cons b rest ih =>
    cases quote with
    | none =>
      simp only [splitTag] at h
      split at h
      · simp only [Option.some.injEq, Prod.mk.injEq] at h
        simp [← h.2]
      · simp only [Option.map_eq_some_iff, Prod.mk.injEq] at h
        obtain ⟨⟨c, a⟩, hs, _, rfl⟩ := h
        exact Nat.lt_succ_of_lt (ih hs)
    | some q =>
      simp only [splitTag, Option.map_eq_some_iff, Prod.mk.injEq] at h
      obtain ⟨⟨c, a⟩, hs, _, rfl⟩ := h
      exact Nat.lt_succ_of_lt (ih hs)

/-- Cuts at the first closing bracket at which `closes` holds of the bytes before it, which it is
given in reverse. -/
def splitClose (closes : Bytes → Bool) (before : Bytes) : Bytes → Option (Bytes × Bytes)
  | [] => none
  | b :: rest =>
    if b == greaterThan && closes before then some (before.reverse, rest)
    else splitClose closes (b :: before) rest

theorem length_lt_of_splitClose {closes : Bytes → Bool} {before s content after : Bytes}
    (h : splitClose closes before s = some (content, after)) : after.length < s.length := by
  induction s generalizing before with
  | nil => simp [splitClose] at h
  | cons b rest ih =>
    simp only [splitClose] at h
    split at h
    · simp only [Option.some.injEq, Prod.mk.injEq] at h
      simp [← h.2]
    · exact Nat.lt_succ_of_lt (ih h)

/-- The declarations that start with `<!`, told apart by the next byte. -/
inductive Declaration where
  | comment
  | cdata
  | documentType
  deriving DecidableEq, Repr

/-- The kind of declaration a byte after `<!` announces. -/
def Declaration.ofByte? (b : UInt8) : Option Declaration :=
  if b == openBracket then some .cdata
  else if b == hyphen then some .comment
  else if b == 0x44 || b == 0x64 then some .documentType
  else none

/-- Whether a closing bracket ends the declaration, given the bytes from `!` up to it in reverse. A
comment needs two hyphens at its end besides those at its start, and a document type has as many
brackets opened as closed. -/
def Declaration.closes : Declaration → Bytes → Bool
  | .comment, before => 4 < before.length && (before.take 2 == [hyphen, hyphen])
  | .cdata, before => before.take 2 == [closeBracket, closeBracket]
  | .documentType, before => before.count lessThan == before.count greaterThan

/-- An ASCII capital letter as a small one. -/
def lowerByte (b : UInt8) : UInt8 :=
  if 0x41 ≤ b && b ≤ 0x5A then b + 0x20 else b

/-- What a declaration is, given its content from `!` up to its closing bracket. -/
def Declaration.read : Declaration → Bytes → Except MarkupFault Markup
  | .comment, content =>
    if (ascii "!--").isPrefixOf content then .ok .skipped else .error .unclosedDeclaration
  | .cdata, content =>
    if (ascii "![CDATA[").isPrefixOf content then
      .ok (.cdata ((content.drop 8).take (content.length - 10)))
    else .error .unclosedDeclaration
  | .documentType, content =>
    if (ascii "!doctype").isPrefixOf (content.map lowerByte) then
      if (content.drop 8).all isBlankByte then .error .unnamedDocumentType else .ok .skipped
    else .error .unclosedDeclaration

/-- The bytes of an end tag without the white space behind its name. A tag of nothing but white
space keeps it. -/
def endTagName (content : Bytes) : Bytes :=
  if content.all isBlankByte then content
  else (content.reverse.dropWhile isBlankByte).reverse

/-- A start tag, or an empty tag when its content ends in a slash. -/
def ofTagContent (content : Bytes) : Markup :=
  if content.getLast? == some slash then .emptyTag content.dropLast else .startTag content

/-- The markup after an opening bracket, with the bytes behind it. -/
def readBracket : Bytes → Except MarkupFault (Markup × Bytes)
  | [] => .error .unclosedTag
  | b :: rest =>
    if b == bang then
      match rest.head?.bind Declaration.ofByte? with
      | none => .error .unknownDeclaration
      | some kind =>
        match splitClose kind.closes [] (b :: rest) with
        | none => .error .unclosedDeclaration
        | some (content, after) => (kind.read content).map (·, after)
    else if b == slash then
      match splitTag none rest with
      | none => .error .unclosedTag
      | some (content, after) => .ok (.endTag (endTagName content), after)
    else if b == question then
      match splitClose (fun before => before.head? == some question) [] (b :: rest) with
      | none => .error .unclosedInstruction
      | some (content, after) =>
        if 1 < content.length then .ok (.skipped, after) else .error .unclosedInstruction
    else
      match splitTag none (b :: rest) with
      | none => .error .unclosedTag
      | some (content, after) => .ok (ofTagContent content, after)

theorem length_le_of_readBracket {s after : Bytes} {m : Markup}
    (h : readBracket s = .ok (m, after)) : after.length ≤ s.length := by
  cases s with
  | nil => simp [readBracket] at h
  | cons b rest =>
    simp only [readBracket] at h
    split at h
    · split at h
      · simp at h
      · rename_i kind _
        split at h
        · simp at h
        · rename_i content a hs
          have hlt := length_lt_of_splitClose hs
          cases hr : kind.read content with
          | error e => simp [hr, Except.map] at h
          | ok m' =>
            simp only [hr, Except.map, Except.ok.injEq, Prod.mk.injEq] at h
            exact h.2 ▸ Nat.le_of_lt hlt
    · split at h
      · split at h
        · simp at h
        · rename_i content a hs
          simp only [Except.ok.injEq, Prod.mk.injEq] at h
          exact h.2 ▸ Nat.le_succ_of_le (Nat.le_of_lt (length_lt_of_splitTag hs))
      · split at h
        · split at h
          · simp at h
          · rename_i content a hs
            split at h
            · simp only [Except.ok.injEq, Prod.mk.injEq] at h
              exact h.2 ▸ Nat.le_of_lt (length_lt_of_splitClose hs)
            · simp at h
        · split at h
          · simp at h
          · rename_i content a hs
            simp only [Except.ok.injEq, Prod.mk.injEq] at h
            exact h.2 ▸ Nat.le_of_lt (length_lt_of_splitTag hs)

/-- Cuts a document into markup, up to the first piece that is malformed. -/
def scan : Bytes → List Markup × Option MarkupFault
  | [] => ([], none)
  | b :: rest =>
    if b == lessThan then
      match h : readBracket rest with
      | .error fault => ([], some fault)
      | .ok (piece, after) =>
        have := length_le_of_readBracket h
        let (pieces, fault) := scan after
        (piece :: pieces, fault)
    else
      let (pieces, fault) := scan (rest.dropWhile (· != lessThan))
      (.text (b :: rest.takeWhile (· != lessThan)) :: pieces, fault)
termination_by s => s.length
decreasing_by
  · simp only [List.length_cons]; omega
  · exact Nat.lt_succ_of_le (List.dropWhile_suffix _).length_le

end Markup

end CubeClient.Xml
