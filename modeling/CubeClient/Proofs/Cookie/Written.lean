import CubeClient.Proofs.Cookie.Pairs
import Mathlib.Data.List.Forall2

/-!
# Cookies as they are written

A cookie may be written with white space around every name and value, with its attributes in any
order and their keys in any letters, and with attributes that nobody knows. None of this makes a
difference: what is read depends on the values of the paths and on those of the expiries alone
(`SetCookie.read?_of_dates`), and of each the last counts. The one thing that an attribute can spoil
is the whole cookie, by an expiry that is no date.
-/

namespace CubeClient

open CubeClient.Text

/-! ## Letters of either case -/

/-- A key that is a word, some of its letters perhaps capitals. -/
def InAnyCase (key word : String) : Prop :=
  List.Forall₂ (fun c small => c = small ∨ c = small.toUpper) key.toList word.toList

instance (key word : String) : Decidable (InAnyCase key word) :=
  inferInstanceAs (Decidable (List.Forall₂ _ _ _))

theorem capital_of_small : ∀ n < 26,
    lowerChar (Char.ofNat (65 + n)) = Char.ofNat (97 + n) ∧
      (Char.ofNat (97 + n)).toUpper = Char.ofNat (65 + n) ∧
      lowerChar (Char.ofNat (97 + n)) = Char.ofNat (97 + n) := by
  decide

/-- A character becomes a small letter if it is that letter or its capital. -/
theorem lowerChar_eq_small_iff {c small : Char} (h : 'a' ≤ small ∧ small ≤ 'z') :
    lowerChar c = small ↔ c = small ∨ c = small.toUpper := by
  have hlow : 97 ≤ small.toNat := h.1
  have hhigh : small.toNat ≤ 122 := h.2
  obtain ⟨n, hn⟩ := Nat.exists_eq_add_of_le hlow
  obtain ⟨hcapital, hupper, hsmall⟩ := capital_of_small n (by omega)
  rw [← hn, Char.ofNat_toNat] at hcapital hupper hsmall
  constructor
  · intro hc
    by_cases hrange : 'A' ≤ c ∧ c ≤ 'Z'
    · have hclow : 65 ≤ c.toNat := hrange.1
      have hchigh : c.toNat ≤ 90 := hrange.2
      obtain ⟨m, hm⟩ := Nat.exists_eq_add_of_le hclow
      obtain ⟨hlower, hup, -⟩ := capital_of_small m (by omega)
      rw [← hm, Char.ofNat_toNat] at hlower hup
      refine .inr ?_
      rw [← hup, ← hlower, hc]
    · rw [lowerChar, if_neg hrange] at hc
      exact .inl hc
  · rintro (rfl | rfl)
    · exact hsmall
    · rw [hupper, hcapital]

/-- A key is read as a word of small letters if it spells this word in any case. -/
theorem lower_eq_iff {key word : String}
    (h : word.toList.all (fun c => 'a' ≤ c ∧ c ≤ 'z') = true) :
    lower key = word ↔ InAnyCase key word := by
  rw [InAnyCase, ← String.toList_inj, lower, String.toList_ofList]
  simp only [List.all_eq_true, decide_eq_true_eq] at h
  generalize key.toList = cs at h ⊢
  generalize word.toList = small at h ⊢
  induction cs generalizing small with
  | nil => cases small <;> simp
  | cons c cs ih =>
    cases small with
    | nil => simp
    | cons d small =>
      obtain ⟨hd, hsmall⟩ := List.forall_mem_cons.mp h
      rw [List.map_cons, List.cons_eq_cons, List.forall₂_cons, lowerChar_eq_small_iff hd,
        ih small hsmall]

/-! ## Written cookies -/

/-- A text with white space around it. -/
structure PaddedText where
  before : Blanks
  text : String
  behind : Blanks
  trimmed : Trimmed text.toList

namespace PaddedText

/-- The text as it is written. -/
def chars (padded : PaddedText) : List Char :=
  padded.before.chars ++ (padded.text.toList ++ padded.behind.chars)

theorem trimList_chars (padded : PaddedText) : trimList padded.chars = padded.text.toList :=
  trimList_padded padded.before.blank padded.trimmed.first padded.trimmed.last padded.behind.blank

theorem notMem_chars {padded : PaddedText} {c : Char} (hc : isSpace c = false)
    (h : c ∉ padded.text.toList) : c ∉ padded.chars := by
  rwa [← mem_trimList hc, trimList_chars]

end PaddedText

/-- An attribute as it is written; it may go without an equals sign. -/
structure WrittenAttribute where
  key : PaddedText
  value : Option PaddedText
  keyPlain : ';' ∉ key.text.toList ∧ '=' ∉ key.text.toList
  valuePlain : ∀ padded ∈ value, ';' ∉ padded.text.toList

namespace WrittenAttribute

/-- What stands behind the equals sign. -/
def text (token : WrittenAttribute) : String :=
  (token.value.map PaddedText.text).getD ""

/-- The attribute as it is written. -/
def chars (token : WrittenAttribute) : List Char :=
  token.key.chars ++ token.value.elim [] fun padded => '=' :: padded.chars

/-- The texts of the attributes whose key is a word, in order. -/
def textsOf (word : String) (attributes : List WrittenAttribute) : List String :=
  (attributes.filter fun token => InAnyCase token.key.text word).map text

/-- A written attribute holds no semicolon, so a header is split between its attributes only. -/
theorem noSeparator (token : WrittenAttribute) : ';' ∉ token.chars := by
  have hkey := PaddedText.notMem_chars rfl token.keyPlain.1
  unfold chars
  cases hvalue : token.value with
  | none => simpa using hkey
  | some padded =>
    have hbehind := PaddedText.notMem_chars rfl (token.valuePlain padded hvalue)
    simpa using ⟨hkey, hbehind⟩

/-- A written attribute is read as its key in small letters and its text. -/
theorem readAttribute_chars (token : WrittenAttribute) :
    SetCookie.readAttribute token.chars = (lower token.key.text, token.text) := by
  have hkey := PaddedText.notMem_chars rfl token.keyPlain.2
  unfold SetCookie.readAttribute chars text
  cases token.value with
  | none =>
    simp only [Option.elim_none, List.append_nil, SetCookie.splitPair_eq_none_iff.mpr hkey,
      Option.getD_none, PaddedText.trimList_chars, Option.map_none]
    rfl
  | some padded =>
    simp only [Option.elim_some, SetCookie.splitPair_append hkey, Option.getD_some,
      PaddedText.trimList_chars, Option.map_some, String.ofList_toList]
    rfl

/-- What an attribute does to a cookie. -/
theorem addAttribute_chars (cookie : Cookie) (token : WrittenAttribute) :
    SetCookie.addAttribute cookie token.chars =
      if InAnyCase token.key.text "path" then some { cookie with path := some token.text }
      else if InAnyCase token.key.text "expires" then
        (HeaderDate.read token.text).map fun expires => { cookie with expires := some expires }
      else some cookie := by
  have hpath : lower token.key.text = "path" ↔ _ := lower_eq_iff (by decide)
  have hexpires : lower token.key.text = "expires" ↔ _ := lower_eq_iff (by decide)
  simp only [SetCookie.addAttribute, readAttribute_chars, ← hpath, ← hexpires]
  generalize lower token.key.text = key
  split
  · rename_i heq
    cases heq
    rw [if_pos rfl]
  · rename_i heq
    cases heq
    rw [if_neg (by decide), if_pos rfl]
  · rename_i hnopath hnoexpires
    rw [if_neg fun h => hnopath token.text (by rw [h]),
      if_neg fun h => hnoexpires token.text (by rw [h])]

theorem textsOf_cons (word : String) (token : WrittenAttribute)
    (attributes : List WrittenAttribute) : textsOf word (token :: attributes) =
      if InAnyCase token.key.text word then token.text :: textsOf word attributes
      else textsOf word attributes := by
  unfold textsOf
  rw [List.filter_cons]
  split <;> simp_all

end WrittenAttribute

/-- Texts that are the dates of instants. -/
def Dates (texts : List String) (instants : List Instant) : Prop :=
  List.Forall₂ (fun text instant => HeaderDate.read text = some instant) texts instants

/-! ## What attributes make of a cookie -/

namespace WrittenAttribute

theorem or_getLast?_cons {α : Type} (first : α) (rest : List α) (before : Option α) :
    (first :: rest).getLast?.or before = rest.getLast?.or (some first) := by
  rw [List.getLast?_cons]
  cases rest.getLast? <;> rfl

/-- Attributes whose expiries are dates set the last path and the last expiry. -/
theorem foldlM_addAttribute {attributes : List WrittenAttribute} {instants : List Instant}
    (h : Dates (textsOf "expires" attributes) instants) (cookie : Cookie) :
    attributes.foldlM (fun cookie token => SetCookie.addAttribute cookie token.chars) cookie =
      some { cookie with
        path := (textsOf "path" attributes).getLast?.or cookie.path
        expires := instants.getLast?.or cookie.expires } := by
  induction attributes generalizing instants cookie with
  | nil =>
    cases h
    rfl
  | cons token attributes ih =>
    rw [List.foldlM_cons, addAttribute_chars]
    rw [textsOf_cons] at h
    rw [textsOf_cons]
    by_cases hpath : InAnyCase token.key.text "path"
    · have hexpires : ¬ InAnyCase token.key.text "expires" := by
        rw [← lower_eq_iff (by decide)] at hpath ⊢
        rw [hpath]
        decide
      rw [if_neg hexpires] at h
      rw [if_pos hpath, if_pos hpath, or_getLast?_cons]
      exact ih h _
    · rw [if_neg hpath, if_neg hpath]
      by_cases hexpires : InAnyCase token.key.text "expires"
      · rw [if_pos hexpires] at h
        rw [if_pos hexpires]
        obtain ⟨instant, rest, hread, hrest, rfl⟩ := List.forall₂_cons_left_iff.mp h
        rw [hread, or_getLast?_cons]
        exact ih hrest _
      · rw [if_neg hexpires] at h
        rw [if_neg hexpires]
        exact ih h cookie

/-- An expiry that is no date spoils every cookie. -/
theorem foldlM_addAttribute_eq_none {attributes : List WrittenAttribute} {text : String}
    (hmem : text ∈ textsOf "expires" attributes) (h : HeaderDate.read text = none)
    (cookie : Cookie) :
    attributes.foldlM (fun cookie token => SetCookie.addAttribute cookie token.chars) cookie =
      none := by
  obtain ⟨token, htoken, rfl⟩ := List.mem_map.mp hmem
  obtain ⟨htoken, hkey⟩ := List.mem_filter.mp htoken
  rw [← List.foldlM_map, SetCookie.foldlM_addAttribute_eq_none_iff]
  have hlower : lower token.key.text = "expires" := by
    rw [lower_eq_iff (by decide)]
    exact of_decide_eq_true hkey
  refine ⟨token.chars, List.mem_map_of_mem htoken, ?_⟩
  rw [readAttribute_chars]
  exact ⟨hlower, h⟩

end WrittenAttribute

/-! ## Reading what is written -/

/-- A cookie as it is written. -/
structure WrittenCookie where
  name : PaddedText
  value : PaddedText
  attributes : List WrittenAttribute
  nonempty : name.text ≠ ""
  namePlain : ';' ∉ name.text.toList ∧ '=' ∉ name.text.toList
  valuePlain : ';' ∉ value.text.toList

namespace WrittenCookie

open WrittenAttribute (textsOf)

/-- The texts of the paths, in order. -/
def paths (written : WrittenCookie) : List String :=
  textsOf "path" written.attributes

/-- The texts of the expiries, in order. -/
def expiries (written : WrittenCookie) : List String :=
  textsOf "expires" written.attributes

/-- The header. -/
def header (written : WrittenCookie) : String :=
  String.ofList (joinWith ';' ((written.name.chars ++ '=' :: written.value.chars) ::
    written.attributes.map WrittenAttribute.chars))

/-- A header is split into its pair and its attributes, in order. -/
theorem splitAt_header (written : WrittenCookie) :
    splitAt ';' written.header.toList = (written.name.chars ++ '=' :: written.value.chars) ::
      written.attributes.map WrittenAttribute.chars := by
  have hname := PaddedText.notMem_chars rfl written.namePlain.1
  have hvalue := PaddedText.notMem_chars rfl written.valuePlain
  rw [header, String.toList_ofList, splitAt_joinWith (List.cons_ne_nil _ _)]
  refine List.forall_mem_cons.mpr ⟨by simpa using ⟨hname, hvalue⟩, ?_⟩
  intro piece hpiece
  obtain ⟨token, -, rfl⟩ := List.mem_map.mp hpiece
  exact token.noSeparator

/-- A written header is read attribute by attribute. -/
theorem read?_header (written : WrittenCookie) : SetCookie.read? written.header =
    (written.attributes.foldlM (fun cookie token => SetCookie.addAttribute cookie token.chars)
      { value := written.value.text }).map fun cookie => (written.name.text, cookie) := by
  have hkey := PaddedText.notMem_chars rfl written.namePlain.2
  have hname : trimList written.name.chars ≠ [] := by
    rw [PaddedText.trimList_chars]
    simpa using written.nonempty
  rw [SetCookie.read?_of_split written.splitAt_header hkey hname, List.foldlM_map]
  simp only [PaddedText.trimList_chars, String.ofList_toList]

/-- Of several paths and expiries the last ones are read. -/
theorem read?_of_dates {written : WrittenCookie} {instants : List Instant}
    (h : Dates written.expiries instants) :
    SetCookie.read? written.header = some (written.name.text,
      { value := written.value.text, path := written.paths.getLast?,
        expires := instants.getLast? }) := by
  rw [read?_header, WrittenAttribute.foldlM_addAttribute h, Option.map_some, Option.or_none,
    Option.or_none]
  rfl

/-- A cookie with an expiry that is no date is not read at all. -/
theorem read?_of_no_date {written : WrittenCookie} {text : String}
    (hmem : text ∈ written.expiries) (h : HeaderDate.read text = none) :
    SetCookie.read? written.header = none := by
  rw [read?_header, WrittenAttribute.foldlM_addAttribute_eq_none hmem h]
  rfl

/-- The expiries are dates, or one of them is not. -/
theorem dates_or_no_date (texts : List String) :
    (∃ instants, Dates texts instants) ∨ ∃ text ∈ texts, HeaderDate.read text = none := by
  cases h : texts.mapM HeaderDate.read with
  | none => exact .inr (exists_none_of_mapM h)
  | some instants => exact .inl ⟨instants, forall₂_of_mapM h⟩

/-- Two headers are read alike if they have the same name and value, the same paths and the same
expiries. -/
theorem read?_congr {written other : WrittenCookie} (hname : written.name.text = other.name.text)
    (hvalue : written.value.text = other.value.text) (hpaths : written.paths = other.paths)
    (hexpiries : written.expiries = other.expiries) :
    SetCookie.read? written.header = SetCookie.read? other.header := by
  rcases dates_or_no_date other.expiries with ⟨instants, h⟩ | ⟨text, hmem, h⟩
  · rw [read?_of_dates h, read?_of_dates (hexpiries ▸ h), hname, hvalue, hpaths]
  · rw [read?_of_no_date hmem h, read?_of_no_date (hexpiries ▸ hmem) h]

/-- The order of the attributes does not matter to which texts a word has. -/
theorem textsOf_perm {attributes others : List WrittenAttribute} (h : attributes.Perm others)
    (word : String) : (textsOf word attributes).Perm (textsOf word others) :=
  (h.filter _).map _

theorem eq_of_perm_of_length_le_one {α : Type} {as bs : List α} (h : as.Perm bs)
    (hlength : bs.length ≤ 1) : as = bs := by
  cases bs with
  | nil => exact List.perm_nil.mp h
  | cons b bs =>
    obtain rfl : bs = [] := List.eq_nil_of_length_eq_zero (by simpa using hlength)
    exact List.perm_singleton.mp h

end WrittenCookie

/-- How a written cookie is read. -/
structure ReadAsWritten (written : WrittenCookie) : Prop where
  /-- Name, value, path and expiry are read as they are, whatever else is written. -/
  exact : ∀ path expires, written.paths = path.toList → Dates written.expiries expires.toList →
    SetCookie.read? written.header =
      some (written.name.text, { value := written.value.text, path, expires })
  /-- The last path and the last expiry count. -/
  last : ∀ instants, Dates written.expiries instants →
    SetCookie.read? written.header = some (written.name.text,
      { value := written.value.text, path := written.paths.getLast?,
        expires := instants.getLast? })
  spoilt : ∀ text ∈ written.expiries, HeaderDate.read text = none →
    SetCookie.read? written.header = none
  /-- Attributes that do not come twice may come in any order. -/
  order : ∀ attributes, attributes.Perm written.attributes → written.paths.length ≤ 1 →
    written.expiries.length ≤ 1 →
    SetCookie.read? { written with attributes }.header = SetCookie.read? written.header

/-- A cookie is read as it is written. -/
theorem WrittenCookie.read_as_written (written : WrittenCookie) : ReadAsWritten written where
  exact path expires hpaths h := by
    rw [read?_of_dates h, hpaths]
    cases path <;> cases expires <;> rfl
  last _ := read?_of_dates
  spoilt _ := read?_of_no_date
  order attributes h hpaths hexpiries := by
    refine read?_congr rfl rfl ?_ ?_
    · exact eq_of_perm_of_length_le_one (textsOf_perm h "path") hpaths
    · exact eq_of_perm_of_length_le_one (textsOf_perm h "expires") hexpiries

/-- A cookie with an equals sign in its value, and an attribute without one before the path. -/
def sessionCookie : WrittenCookie where
  name := ⟨.none, "sid", .space, by decide⟩
  value := ⟨.tab, "a=b", .none, by decide⟩
  attributes := [
    { key := ⟨.space, "HttpOnly", .none, by decide⟩, value := none,
      keyPlain := by decide, valuePlain := nofun },
    { key := ⟨.none, "pATH", .space, by decide⟩, value := some ⟨.none, "/x", .tab, by decide⟩,
      keyPlain := by decide, valuePlain := by simp }]
  nonempty := by decide
  namePlain := by decide
  valuePlain := by decide

example : sessionCookie.header = "sid =\ta=b; HttpOnly;pATH =/x\t" ∧
    SetCookie.read? sessionCookie.header = some ("sid", { value := "a=b", path := some "/x" }) := by
  decide

end CubeClient
