import CubeClient.Proofs.Settings.ConnectStrings
import CubeClient.Proofs.Text.Trimming

/-!
# Padding in connect strings

A pair may be written with white space around its key and its value, and with empty segments in
front of it. White space is dropped wherever it stands, with one exception: a quote is a quote only
right behind the equals sign. A separator is dropped only at the end of a value. In front of a key
it becomes part of the key, and so does each one at the end but the first
(`ConnectString.parse_padded`).
-/

namespace CubeClient

open CubeClient.Text

/-! ## Pairs and what is around them -/

/-- Empty segments: white space and separators. -/
structure Gap where
  chars : List Char
  empty : ∀ c ∈ chars, isSpace c = true ∨ c = ';'

def Blanks.toGap (blanks : Blanks) : Gap :=
  ⟨blanks.chars, fun c hc => .inl (blanks.blank c hc)⟩

/-- A value that needs no quotes. -/
structure PlainValue (value : String) : Prop where
  noSeparator : ';' ∉ value.toList
  noQuote : ∀ c ∈ value.toList.head?, c ≠ '\'' ∧ c ≠ '"'
  first : ∀ c ∈ value.toList.head?, isSpace c = false
  last : ∀ c ∈ value.toList.getLast?, isSpace c = false

theorem plainValue_iff {value : String} : PlainValue value ↔ ';' ∉ value.toList ∧
    value.toList.head?.all (fun c => c != '\'' && c != '"') = true ∧
    value.toList.head?.all (!isSpace ·) = true ∧ value.toList.getLast?.all (!isSpace ·) = true := by
  simp only [Option.all_eq_true, Bool.not_eq_true', Bool.and_eq_true, bne_iff_ne]
  exact ⟨fun h => ⟨h.noSeparator, h.noQuote, h.first, h.last⟩,
    fun h => ⟨h.1, h.2.1, h.2.2.1, h.2.2.2⟩⟩

instance (value : String) : Decidable (PlainValue value) :=
  decidable_of_iff _ plainValue_iff.symm

/-- A pair with what may be written around its key and value. -/
structure PaddedPair where
  gap : Gap
  key : String
  behindKey : Blanks
  beforeValue : Blanks
  value : String
  quote : Quote
  behindValue : Blanks

namespace PaddedPair

/-- A key that neither an equals sign nor a separator cuts. -/
structure SegmentKey (key : String) : Prop extends QuotedPair.PlainKey key where
  noSeparator : ';' ∉ key.toList

theorem segmentKey_iff {key : String} :
    SegmentKey key ↔ QuotedPair.PlainKey key ∧ ';' ∉ key.toList :=
  ⟨fun h => ⟨h.toPlainKey, h.noSeparator⟩, fun h => ⟨h.1, h.2⟩⟩

instance (key : String) : Decidable (SegmentKey key) :=
  decidable_of_iff _ segmentKey_iff.symm

/-- The value as it is written: between quotes if it needs them. -/
def writtenValue (pair : PaddedPair) : List Char :=
  if PlainValue pair.value then pair.value.toList
  else pair.quote.char :: (pair.quote.doubled pair.value.toList ++ [pair.quote.char])

/-- The pair as it is written. -/
def text (pair : PaddedPair) : List Char :=
  pair.gap.chars ++ (pair.key.toList ++ pair.behindKey.chars) ++
    '=' :: (pair.beforeValue.chars ++ (pair.writtenValue ++ pair.behindValue.chars))

/-- The connect string of some pairs, with a gap at its end or without. -/
def connectString (pairs : List PaddedPair) (ending : Option Gap) : String :=
  String.ofList (ConnectString.scheme.toList ++
    [';'].intercalate (pairs.map text ++ ending.toList.map Gap.chars))

/-- The pair without what is around it. -/
def bare (pair : PaddedPair) : PaddedPair :=
  { pair with gap := Blanks.none.toGap, behindKey := .none, beforeValue := .none,
              behindValue := .none }

/-- The pair as it is kept. The separators in front of the key become part of it. -/
def kept (pair : PaddedPair) : String × String :=
  (ConnectString.canonicalKey
    (String.ofList (pair.gap.chars.dropWhile isSpace ++ pair.key.toList)), pair.value)

end PaddedPair

/-- What is kept of a gap at the end. -/
def Gap.kept (gap : Gap) : List (String × String) :=
  if (trimList gap.chars).isEmpty then []
  else [(ConnectString.canonicalKey (String.ofList (trimList gap.chars)), "")]

/-! ## Reading a padded pair -/

namespace ConnectString

open PaddedPair

theorem skipPast_run {separator : Char} {front rest : List Char} (hfront : separator ∉ front)
    (hrest : ∀ c ∈ rest.head?, c = separator) :
    skipPast separator (front ++ rest) = rest.drop 1 := by
  rw [skipPast, dropWhile_bne_run hfront hrest]

/-- A value that no quote begins ends at the next separator. -/
theorem readValue?_unquoted {text : List Char} (h : ∀ c ∈ text.head?, c ≠ '\'' ∧ c ≠ '"') :
    readValue? text = some (trimList (text.takeWhile (· != ';')), skipPast ';' text) := by
  cases text with
  | nil => rfl
  | cons c text => rw [readValue?, if_neg (not_or.mpr (h c rfl))]

/-- A plain value is read without the white space around it. -/
theorem readValue?_plain {before after rest : List Char} {value : String} (h : PlainValue value)
    (hbefore : ∀ c ∈ before, isSpace c = true) (hafter : ∀ c ∈ after, isSpace c = true)
    (hrest : ∀ c ∈ rest.head?, c = ';') :
    readValue? (before ++ (value.toList ++ after) ++ rest) = some (value.toList, rest.drop 1) := by
  have hblank : ∀ c, isSpace c = true → c ≠ '\'' ∧ c ≠ '"' := by
    intro c hc
    exact ⟨ne_of_isSpace hc rfl, ne_of_isSpace hc rfl⟩
  have hhead : ∀ c ∈ (before ++ (value.toList ++ after) ++ rest).head?, c ≠ '\'' ∧ c ≠ '"' := by
    intro c hc
    rw [List.append_assoc, List.append_assoc] at hc
    rcases head?_append_cases hc with hc | hc
    · exact hblank c (hbefore c (List.mem_of_head? hc))
    rcases head?_append_cases hc with hc | hc
    · exact h.noQuote c hc
    rcases head?_append_cases hc with hc | hc
    · exact hblank c (hafter c (List.mem_of_head? hc))
    · rw [hrest c hc]
      decide
  have hsep : ';' ∉ before ++ (value.toList ++ after) := by
    simp only [List.mem_append, not_or]
    exact ⟨notMem_of_isSpace hbefore rfl, h.noSeparator, notMem_of_isSpace hafter rfl⟩
  rw [readValue?_unquoted hhead, takeWhile_bne_run hsep hrest,
    trimList_padded hbefore h.first h.last hafter, skipPast_run hsep hrest]

/-- A quoted value is read as it is, and only white space may follow it. -/
theorem readValue?_quoted (quote : Quote) (value : List Char) {after rest : List Char}
    (hafter : ∀ c ∈ after, isSpace c = true) (hrest : ∀ c ∈ rest.head?, c = ';') :
    readValue? (quote.char :: (quote.doubled value ++ quote.char :: (after ++ rest))) =
      some (value, rest.drop 1) := by
  have hends : ∀ c ∈ (after ++ rest).head?, c ≠ quote.char := by
    intro c hc
    rcases head?_append_cases hc with hc | hc
    · exact ne_of_isSpace (hafter c (List.mem_of_head? hc)) (by cases quote <;> decide)
    · rw [hrest c hc]
      cases quote <;> decide
  have hskip : skipPast ';' (after ++ rest) = rest.drop 1 :=
    skipPast_run (notMem_of_isSpace hafter rfl) hrest
  rw [readValue?, if_pos (by cases quote <;> decide), readQuoted_doubled quote value hends,
    ← hskip]
  rfl

/-- The value of a pair as it is written, with white space in front of it only if it stands there
without quotes. -/
theorem readValue?_written {pair : PaddedPair}
    (htight : ¬ PlainValue pair.value → pair.beforeValue.chars = []) {rest : List Char}
    (hrest : ∀ c ∈ rest.head?, c = ';') :
    readValue? (pair.beforeValue.chars ++ (pair.writtenValue ++ pair.behindValue.chars) ++ rest) =
      some (pair.value.toList, rest.drop 1) := by
  rw [writtenValue]
  split
  · rename_i hplain
    exact readValue?_plain hplain pair.beforeValue.blank pair.behindValue.blank hrest
  · rename_i hquoted
    rw [htight hquoted]
    simpa using readValue?_quoted pair.quote pair.value.toList pair.behindValue.blank hrest

theorem noEquals_gap (gap : Gap) : '=' ∉ gap.chars := by
  intro hmem
  rcases gap.empty '=' hmem with h | h
  · exact ne_of_isSpace h rfl rfl
  · cases h

/-- One padded pair, at the end of the text or in front of a separator. -/
theorem readProperties_padded (properties : List (String × String)) {pair : PaddedPair}
    (hkey : SegmentKey pair.key)
    (htight : ¬ PlainValue pair.value → pair.beforeValue.chars = []) {rest : List Char}
    (hrest : ∀ c ∈ rest.head?, c = ';') :
    readProperties properties (pair.text ++ rest) =
      readProperties (set properties pair.kept.1 pair.kept.2) (rest.drop 1) := by
  have hfront : '=' ∉ pair.gap.chars ++ (pair.key.toList ++ pair.behindKey.chars) := by
    simp only [List.mem_append, not_or]
    exact ⟨noEquals_gap pair.gap, hkey.noEquals, notMem_of_isSpace pair.behindKey.blank rfl⟩
  have htext : pair.text ++ rest = pair.gap.chars ++ (pair.key.toList ++ pair.behindKey.chars) ++
      '=' :: (pair.beforeValue.chars ++ (pair.writtenValue ++ pair.behindValue.chars) ++ rest) := by
    rw [text, List.append_assoc _ _ rest, List.cons_append]
  have htake : (pair.text ++ rest).takeWhile (· != '=') =
      pair.gap.chars ++ (pair.key.toList ++ pair.behindKey.chars) := by
    rw [htext, takeWhile_bne_run hfront (by simp)]
  have hvalue : readValue? (skipPast '=' (pair.text ++ rest)) =
      some (pair.value.toList, rest.drop 1) := by
    rw [htext, skipPast_append hfront, readValue?_written htight hrest]
  have hne : pair.key.toList ≠ [] := by
    simpa using hkey.nonempty
  have hkept : (pair.gap.chars.dropWhile isSpace ++ pair.key.toList).isEmpty = false := by
    simp [hne]
  rw [readProperties_step (by rw [htext]; simp) hvalue, htake,
    trimList_lead _ hne hkey.first hkey.last pair.behindKey.blank, hkept,
    if_neg Bool.false_ne_true, String.ofList_toList, kept]

/-- Empty segments are read as keys that are made of separators, if they hold any. -/
theorem readProperties_gap (properties : List (String × String)) (gap : Gap) :
    readProperties properties gap.chars =
      .ok (gap.kept.foldl (fun kept pair => set kept pair.1 pair.2) properties) := by
  by_cases hnil : gap.chars = []
  · rw [Gap.kept, hnil, readProperties]
    rfl
  · have hpass := forall_bne (noEquals_gap gap)
    have htake : gap.chars.takeWhile (· != '=') = gap.chars := List.takeWhile_eq_self_iff.mpr hpass
    -- There is no equals sign, so all of the gap is a key and its value is empty.
    have hvalue : readValue? (skipPast '=' gap.chars) = some ([], []) := by
      rw [skipPast, List.dropWhile_eq_nil_iff.mpr hpass]
      rfl
    rw [readProperties_step hnil hvalue, htake, Gap.kept, readProperties]
    split
    · rfl
    · rw [String.ofList_nil, List.foldl_cons, List.foldl_nil]

/-- Padded pairs are read one after the other, with what their gaps add. -/
theorem readProperties_segments {pairs : List PaddedPair} {ending : Option Gap}
    (hkeys : ∀ pair ∈ pairs, SegmentKey pair.key)
    (htight : ∀ pair ∈ pairs, ¬ PlainValue pair.value → pair.beforeValue.chars = [])
    (properties : List (String × String)) :
    readProperties properties
        ([';'].intercalate (pairs.map text ++ ending.toList.map Gap.chars)) =
      .ok ((pairs.map kept ++ ending.toList.flatMap Gap.kept).foldl
        (fun kept pair => set kept pair.1 pair.2) properties) := by
  induction pairs generalizing properties with
  | nil =>
    cases ending with
    | none =>
      show readProperties properties [] = .ok properties
      rw [readProperties]
    | some gap => simpa using readProperties_gap properties gap
  | cons pair pairs ih =>
    obtain ⟨hkey, hkeys⟩ := List.forall_mem_cons.mp hkeys
    obtain ⟨hpair, htight⟩ := List.forall_mem_cons.mp htight
    obtain ⟨rest, htext, hrest, hbehind⟩ := exists_intercalate_cons ';' pair.text
      (pairs.map text ++ ending.toList.map Gap.chars)
    rw [List.map_cons, List.cons_append, htext, readProperties_padded properties hkey hpair hrest,
      hbehind, ih hkeys htight]
    rfl

theorem parse_eq_of_padded {pairs : List PaddedPair} (ending : Option Gap)
    (hkeys : ∀ pair ∈ pairs, SegmentKey pair.key)
    (htight : ∀ pair ∈ pairs, ¬ PlainValue pair.value → pair.beforeValue.chars = []) :
    parse (PaddedPair.connectString pairs ending) =
      .ok ⟨(pairs.map kept ++ ending.toList.flatMap Gap.kept).foldl
        (fun kept pair => set kept pair.1 pair.2) []⟩ := by
  rw [parse, PaddedPair.connectString, String.toList_ofList,
    if_pos (List.isPrefixOf_iff_prefix.mpr (List.prefix_append _ _)), ← String.length_toList,
    List.drop_left, readProperties_segments hkeys htight]

end ConnectString

/-! ## Separators in keys -/

/-- No name of a property holds a separator. -/
theorem Property.NamedBy.noSeparator {p : Property} {key : String} (h : p.NamedBy key) :
    ';' ∉ key.toList := by
  obtain ⟨name, hname, heq⟩ := h
  intro hmem
  have hlower : ';' ∈ (lower key).toList := by
    rw [lower, String.toList_ofList]
    exact List.mem_map.mpr ⟨';', hmem, rfl⟩
  have hnames : ∀ p ∈ Property.all, ∀ name ∈ p.key :: p.aliases, ';' ∉ (lower name).toList := by
    decide
  exact hnames p p.mem_all name hname (heq ▸ hlower)

theorem ConnectString.mem_canonicalKey {key : String} :
    ';' ∈ (canonicalKey key).toList ↔ ';' ∈ key.toList := by
  rcases renames_canonicalKey key with ⟨p, hnamed, hkey⟩ | ⟨-, hkey⟩
  · rw [hkey]
    exact iff_of_false p.namedBy_key.noSeparator hnamed.noSeparator
  · rw [hkey]

/-- A separator in front of a pair becomes a part of its key. -/
theorem PaddedPair.mem_kept {pair : PaddedPair} (h : SegmentKey pair.key) :
    ';' ∈ pair.kept.1.toList ↔ ';' ∈ pair.gap.chars := by
  rw [kept, ConnectString.mem_canonicalKey, String.toList_ofList, List.mem_append,
    mem_dropWhile_isSpace rfl]
  exact or_iff_left h.noSeparator

namespace Gap

variable {gap : Gap}

theorem blank_of_notMem (h : ';' ∉ gap.chars) : ∀ c ∈ gap.chars, isSpace c = true := by
  intro c hc
  refine (gap.empty c hc).resolve_right ?_
  rintro rfl
  exact h hc

theorem kept_eq_nil (h : ';' ∉ gap.chars) : gap.kept = [] := by
  rw [kept, trimList_eq_nil (blank_of_notMem h)]
  rfl

theorem exists_mem_kept (h : ';' ∈ gap.chars) : ∃ pair ∈ gap.kept, ';' ∈ pair.1.toList := by
  have hmem : ';' ∈ trimList gap.chars := (mem_trimList rfl).mpr h
  have hne : (trimList gap.chars).isEmpty = false := by
    simpa using List.ne_nil_of_mem hmem
  rw [kept, hne]
  refine ⟨_, List.mem_cons_self, ?_⟩
  rw [ConnectString.mem_canonicalKey, String.toList_ofList]
  exact hmem

end Gap

theorem PaddedPair.kept_bare {pair : PaddedPair} (h : ';' ∉ pair.gap.chars) :
    pair.bare.kept = pair.kept := by
  rw [kept, kept, List.dropWhile_eq_nil_iff.mpr (Gap.blank_of_notMem h)]
  rfl

namespace ConnectString

open PaddedPair

/-- Keys without a separator have none in front of them. -/
theorem gaps_of_keys {pairs : List PaddedPair} {ending : Option Gap}
    (hkeys : ∀ pair ∈ pairs, SegmentKey pair.key)
    (h : ∀ pair ∈ pairs.map kept ++ ending.toList.flatMap Gap.kept, ';' ∉ pair.1.toList) :
    (∀ pair ∈ pairs, ';' ∉ pair.gap.chars) ∧ ∀ gap ∈ ending, ';' ∉ gap.chars := by
  obtain ⟨hpairs, hending⟩ := List.forall_mem_append.mp h
  constructor
  · intro pair hpair hmem
    exact hpairs pair.kept (List.mem_map_of_mem hpair) ((mem_kept (hkeys pair hpair)).mpr hmem)
  · intro gap hgap hmem
    obtain ⟨pair, hpair, hkey⟩ := Gap.exists_mem_kept hmem
    exact hending pair (List.mem_flatMap.mpr ⟨gap, Option.mem_toList.mpr hgap, hpair⟩) hkey

/-- Lists that keep the same have the same keys. -/
theorem keys_eq_of_foldl_eq {pairs others : List (String × String)}
    (h : pairs.foldl (fun kept pair => set kept pair.1 pair.2) [] =
      others.foldl (fun kept pair => set kept pair.1 pair.2) []) (key : String) :
    key ∈ pairs.map Prod.fst ↔ key ∈ others.map Prod.fst := by
  rw [← List.mem_eraseDups, ← (merges_foldl pairs).keys, h, (merges_foldl others).keys,
    List.mem_eraseDups]

/-- Pairs are read with any padding, each with its value and with the separators in front of its key
as part of it. So padding changes nothing exactly if none of it is a separator, but for one at the
end, as long as no white space stands in front of a quoted value. -/
theorem parse_padded (pairs : List PaddedPair) (ending : Option Gap)
    (hkeys : ∀ pair ∈ pairs, SegmentKey pair.key)
    (htight : ∀ pair ∈ pairs, ¬ PlainValue pair.value → pair.beforeValue.chars = []) :
    (∃ cs, parse (PaddedPair.connectString pairs ending) = .ok cs ∧
      Merges (pairs.map kept ++ ending.toList.flatMap Gap.kept) cs.properties) ∧
    (parse (PaddedPair.connectString pairs ending) =
        parse (PaddedPair.connectString (pairs.map bare) none) ↔
      (∀ pair ∈ pairs, ';' ∉ pair.gap.chars) ∧ ∀ gap ∈ ending, ';' ∉ gap.chars) := by
  have hbareKeys : ∀ pair ∈ pairs.map bare, SegmentKey pair.key := List.forall_mem_map.mpr hkeys
  have hpadded := parse_eq_of_padded ending hkeys htight
  have hbare := parse_eq_of_padded none hbareKeys (List.forall_mem_map.mpr fun _ _ _ => rfl)
  refine ⟨⟨_, hpadded, merges_foldl _⟩, ?_⟩
  rw [hpadded, hbare]
  constructor
  · intro h
    have hproperties := ConnectString.mk.inj (Except.ok.inj h)
    refine gaps_of_keys hkeys fun pair hpair hsep => ?_
    have hkey := (keys_eq_of_foldl_eq hproperties pair.1).mp (List.mem_map_of_mem hpair)
    obtain ⟨other, hother, hsame⟩ := List.mem_map.mp hkey
    rw [Option.toList_none, List.flatMap_nil, List.append_nil] at hother
    obtain ⟨plain, hplain, rfl⟩ := List.mem_map.mp hother
    rw [← hsame, mem_kept (hbareKeys plain hplain)] at hsep
    obtain ⟨padded, -, rfl⟩ := List.mem_map.mp hplain
    cases hsep
  · rintro ⟨hgaps, hending⟩
    have hpairs : (pairs.map bare).map kept = pairs.map kept := by
      rw [List.map_map]
      exact List.map_congr_left fun pair hpair => kept_bare (hgaps pair hpair)
    have hend : ending.toList.flatMap Gap.kept = [] := by
      cases ending with
      | none => rfl
      | some gap => simpa using Gap.kept_eq_nil (hending gap rfl)
    rw [hpairs, hend]
    rfl

/-- A server and a quoted catalog, with white space everywhere but in front of the quotation. -/
def serverAndCatalog : List PaddedPair :=
  [⟨Blanks.space.toGap, "Server", .space, .space, "h", .single, .space⟩,
    ⟨Blanks.tab.toGap, "Catalog", .space, .none, " x;y'", .single, .space⟩]

theorem parse_padded_serverAndCatalog :
    parse "jdbc:xmla: Server = h ;\tCatalog =' x;y''' ; " =
      parse "jdbc:xmla:Server=h;Catalog=' x;y'''" := by
  have hpadded : PaddedPair.connectString serverAndCatalog (some Blanks.space.toGap) =
      "jdbc:xmla: Server = h ;\tCatalog =' x;y''' ; " := by decide
  have hbare : PaddedPair.connectString (serverAndCatalog.map bare) none =
      "jdbc:xmla:Server=h;Catalog=' x;y'''" := by decide
  rw [← hpadded, ← hbare]
  exact (parse_padded serverAndCatalog _ (by decide) (by decide)).2.mpr (by decide)

/-- White space in front of a quotation: the value ends at the separator in it. An empty segment in
front of a key: its separator is read as part of the key. -/
theorem spaced_quotation_cut :
    parse "jdbc:xmla:Server=h;Catalog='x;y'" = .ok ⟨[("Server", "h"), ("Catalog", "x;y")]⟩ ∧
      parse "jdbc:xmla:Server=h;Catalog= 'x;y'" =
        .ok ⟨[("Server", "h"), ("Catalog", "'x"), ("y'", "")]⟩ ∧
      parse "jdbc:xmla:Server=h;;Catalog='x;y'" =
        .ok ⟨[("Server", "h"), (";Catalog", "x;y")]⟩ := by
  decide +kernel

end ConnectString

end CubeClient
