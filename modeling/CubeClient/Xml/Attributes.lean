import CubeClient.Xml.Name

/-!
# The attributes of a tag

The content of a tag is a name and attributes, each `name="value"` with either quote and any white
space around the equals sign. Two attributes may follow each other without a space, but no name
may come twice. Neither names nor values are decoded here.
-/

namespace CubeClient.Xml

open CubeClient.Text

namespace Attributes

/-- `=` -/
def equalsSign : UInt8 := 0x3D

/-- The bytes up to a closing quote, and those behind it. -/
def splitQuote (quote : UInt8) : Bytes → Option (Bytes × Bytes)
  | [] => none
  | b :: rest =>
    if b == quote then some ([], rest)
    else (splitQuote quote rest).map fun (value, after) => (b :: value, after)

theorem length_lt_of_splitQuote {quote : UInt8} {s value after : Bytes}
    (h : splitQuote quote s = some (value, after)) : after.length < s.length := by
  induction s generalizing value after with
  | nil => simp [splitQuote] at h
  | cons b rest ih =>
    simp only [splitQuote] at h
    split at h
    · simp only [Option.some.injEq, Prod.mk.injEq] at h
      simp [← h.2]
    · simp only [Option.map_eq_some_iff, Prod.mk.injEq] at h
      obtain ⟨⟨c, a⟩, hs, _, rfl⟩ := h
      exact Nat.lt_succ_of_lt (ih hs)

/-- White space removed from the front. -/
def skipBlank (s : Bytes) : Bytes :=
  s.dropWhile Markup.isBlankByte

theorem length_skipBlank_le (s : Bytes) : (skipBlank s).length ≤ s.length :=
  (List.dropWhile_suffix _).length_le

/-- A byte that may continue the name of an attribute. Its first byte is not restricted. -/
def inName (b : UInt8) : Bool :=
  b != equalsSign && !Markup.isBlankByte b

/-- The value of an attribute, given what follows its name. -/
def readValue? (afterName : Bytes) : Option (Bytes × Bytes) :=
  match skipBlank afterName with
  | [] => none
  | b :: afterEquals =>
    if b != equalsSign then none
    else
      match skipBlank afterEquals with
      | [] => none
      | quote :: rest =>
        if quote == Markup.doubleQuote || quote == Markup.singleQuote then splitQuote quote rest
        else none

theorem length_lt_of_readValue? {s value after : Bytes}
    (h : readValue? s = some (value, after)) : after.length < s.length := by
  have h₁ := length_skipBlank_le s
  simp only [readValue?] at h
  split at h
  · simp at h
  · rename_i b afterEquals heq
    rw [heq, List.length_cons] at h₁
    have h₂ := length_skipBlank_le afterEquals
    split at h
    · simp at h
    · split at h
      · simp at h
      · rename_i quote rest heq'
        rw [heq', List.length_cons] at h₂
        split at h
        · have := length_lt_of_splitQuote h
          omega
        · simp at h

/-- The attributes written in a text, or `none` when one of them is malformed. -/
def read? (s : Bytes) : Option (List (QName × Bytes)) :=
  match h : skipBlank s with
  | [] => some []
  | b :: rest =>
    match hv : readValue? (rest.dropWhile inName) with
    | none => none
    | some (value, after) =>
      have : after.length < s.length := by
        have h₁ := length_skipBlank_le s
        have h₂ := length_lt_of_readValue? hv
        have h₃ : (rest.dropWhile inName).length ≤ rest.length :=
          (List.dropWhile_suffix _).length_le
        rw [h, List.length_cons] at h₁
        omega
      (read? after).map ((b :: rest.takeWhile inName, value) :: ·)
termination_by s.length

/-- Whether a name comes twice. -/
def repeats : List QName → Bool
  | [] => false
  | name :: rest => rest.contains name || repeats rest

end Attributes

/-- The content of a tag, cut into its name and its attributes. -/
structure TagContent where
  name : QName
  attributes : List (QName × Bytes)
  deriving DecidableEq, Repr

/-- Cuts the content of a tag; the name ends at the first white space and may be empty. -/
def TagContent.read (content : Bytes) : Except MarkupFault TagContent :=
  let name := content.takeWhile fun b => !Markup.isBlankByte b
  match Attributes.read? (content.drop name.length) with
  | none => .error .attributeSyntax
  | some attributes =>
    if Attributes.repeats (attributes.map (·.1)) then .error .repeatedAttribute
    else .ok ⟨name, attributes⟩

end CubeClient.Xml
