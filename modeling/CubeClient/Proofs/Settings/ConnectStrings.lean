import CubeClient.Proofs.Number.Integers
import CubeClient.Proofs.Settings.Properties
import Mathlib.Data.List.Forall2

/-!
# Connect strings that are written and read

A pair is written as its key, an equals sign and its value between quotes, where each quote of the
value is doubled. Reading the pairs of a connect string gives them back, merged under the keys they
are kept under (`parse_written`): whatever a value holds, nothing of it ends the quotation and
nothing of the quotation gets into it (`readQuoted_doubled`).

Settings can be written so. Each known property that has a value is one pair, and what is read from
these pairs are the settings (`toSettings_of_merges`).
-/

namespace CubeClient

open CubeClient.Text
open CubeClient.Number

/-- The quotes that a value may stand between. -/
inductive Quote where
  | single
  | double
  deriving DecidableEq, Repr

/-- The character that is the quote. -/
def Quote.char : Quote → Char
  | .single => '\''
  | .double => '"'

/-- A text with each quote in it doubled. -/
def Quote.doubled (quote : Quote) (cs : List Char) : List Char :=
  cs.flatMap fun c => if c = quote.char then [c, c] else [c]

/-- A pair with the quotes that its value is written in. -/
structure QuotedPair where
  key : String
  value : String
  quote : Quote
  deriving DecidableEq, Repr

namespace QuotedPair

/-- A key that is read as it is written: not empty, without an equals sign, and without white space
at its ends. -/
structure PlainKey (key : String) : Prop where
  nonempty : key ≠ ""
  noEquals : '=' ∉ key.toList
  first : ∀ c ∈ key.toList.head?, isSpace c = false
  last : ∀ c ∈ key.toList.getLast?, isSpace c = false

theorem plainKey_iff {key : String} : PlainKey key ↔ key ≠ "" ∧ '=' ∉ key.toList ∧
    key.toList.head?.all (!isSpace ·) = true ∧ key.toList.getLast?.all (!isSpace ·) = true := by
  simp only [Option.all_eq_true, Bool.not_eq_true']
  exact ⟨fun h => ⟨h.nonempty, h.noEquals, h.first, h.last⟩,
    fun h => ⟨h.1, h.2.1, h.2.2.1, h.2.2.2⟩⟩

instance (key : String) : Decidable (PlainKey key) :=
  decidable_of_iff _ plainKey_iff.symm

/-- The pair as it is written. -/
def text (pair : QuotedPair) : String :=
  String.ofList (pair.key.toList ++
    '=' :: pair.quote.char :: (pair.quote.doubled pair.value.toList ++ [pair.quote.char]))

/-- The connect string of some pairs. -/
def connectString (pairs : List QuotedPair) : String :=
  ConnectString.scheme ++ ";".intercalate (pairs.map text)

/-- The pair as it is kept. -/
def kept (pair : QuotedPair) : String × String :=
  (ConnectString.canonicalKey pair.key, pair.value)

/-- A pair that has the value and the key, renamed if it names a property. -/
def KeptAs (pair : QuotedPair) (kept : String × String) : Prop :=
  Renames pair.key kept.1 ∧ kept.2 = pair.value

theorem forall₂_kept (pairs : List QuotedPair) : List.Forall₂ KeptAs pairs (pairs.map kept) := by
  rw [List.forall₂_map_right_iff]
  exact List.forall₂_same.mpr fun pair _ => ⟨ConnectString.renames_canonicalKey pair.key, rfl⟩

/-- A plain key stays as it is when it is trimmed. -/
theorem PlainKey.trimList_eq {key : String} (h : PlainKey key) :
    trimList key.toList = key.toList := by
  have hdrop : ∀ cs : List Char, (∀ c ∈ cs.head?, isSpace c = false) →
      cs.dropWhile isSpace = cs := by
    intro cs hfirst
    cases cs with
    | nil => rfl
    | cons c cs => rw [List.dropWhile_cons_of_neg (by simp [hfirst c rfl])]
  rw [trimList, hdrop _ h.first, hdrop, List.reverse_reverse]
  rw [List.head?_reverse]
  exact h.last

end QuotedPair

namespace ConnectString

open QuotedPair

theorem readQuoted_of_ne {quote c : Char} (h : c ≠ quote) (cs : List Char) :
    readQuoted quote (c :: cs) =
      (readQuoted quote cs).map fun (value, rest) => (c :: value, rest) := by
  rw [readQuoted.eq_def]
  simp only [h, if_false]

/-- A quoted value ends at its own quote, if something else than a quote follows it. -/
theorem readQuoted_doubled (quote : Quote) (value : List Char) {rest : List Char}
    (h : ∀ c ∈ rest.head?, c ≠ quote.char) :
    readQuoted quote.char (quote.doubled value ++ quote.char :: rest) = some (value, rest) := by
  induction value with
  | nil =>
    cases rest with
    | nil => simp [Quote.doubled, readQuoted]
    | cons c rest => simp [Quote.doubled, readQuoted, h c rfl]
  | cons c value ih =>
    have hcons : quote.doubled (c :: value) =
        (if c = quote.char then [c, c] else [c]) ++ quote.doubled value := rfl
    rw [hcons]
    by_cases hc : c = quote.char
    · subst hc
      simp [readQuoted, ih]
    · rw [if_neg hc, List.append_assoc, List.singleton_append, readQuoted_of_ne hc, ih]
      rfl

theorem skipPast_append {separator : Char} {front : List Char} (h : separator ∉ front)
    (rest : List Char) : skipPast separator (front ++ separator :: rest) = rest := by
  have hfront : ∀ c ∈ front, (c != separator) = true := by
    intro c hc
    simpa using ne_of_mem_of_not_mem hc h
  rw [skipPast, List.dropWhile_append_of_pos hfront, List.dropWhile_cons_of_neg (by simp)]
  rfl

/-- One property of a text that goes on. -/
theorem readProperties_step {properties : List (String × String)} {text value after : List Char}
    (hne : text ≠ []) (h : readValue? (skipPast '=' text) = some (value, after)) :
    readProperties properties text =
      readProperties
        (if (trimList (text.takeWhile (· != '='))).isEmpty then properties
         else set properties (canonicalKey (String.ofList (trimList (text.takeWhile (· != '=')))))
           (String.ofList value)) after := by
  cases text with
  | nil => exact absurd rfl hne
  | cons c cs =>
    rw [readProperties]
    split
    · rename_i hnone
      rw [h] at hnone
      cases hnone
    · rename_i value' after' hsome
      rw [h] at hsome
      cases hsome
      rfl

/-- A written pair, at the end of the text or in front of a separator. -/
theorem readProperties_text (properties : List (String × String)) {pair : QuotedPair}
    (hkey : PlainKey pair.key) {rest : List Char} (hrest : ∀ c ∈ rest.head?, c = ';') :
    readProperties properties (pair.text.toList ++ rest) =
      readProperties (set properties pair.kept.1 pair.kept.2) (rest.drop 1) := by
  have hquote : ∀ c ∈ rest.head?, c ≠ pair.quote.char := by
    intro c hc
    rw [hrest c hc]
    cases pair.quote <;> decide
  have htext : pair.text.toList ++ rest = pair.key.toList ++ '=' :: pair.quote.char ::
      (pair.quote.doubled pair.value.toList ++ pair.quote.char :: rest) := by
    simp [text]
  have hfront : ∀ c ∈ pair.key.toList, (c != '=') = true := by
    intro c hc
    simpa using ne_of_mem_of_not_mem hc hkey.noEquals
  have htake : (pair.text.toList ++ rest).takeWhile (· != '=') = pair.key.toList := by
    rw [htext, List.takeWhile_append_of_pos hfront, List.takeWhile_cons_of_neg (by simp),
      List.append_nil]
  have hskip : skipPast ';' rest = rest.drop 1 := by
    cases rest with
    | nil => rfl
    | cons c rest => rw [hrest c rfl]; exact skipPast_append List.not_mem_nil rest
  have hvalue : readValue? (skipPast '=' (pair.text.toList ++ rest)) =
      some (pair.value.toList, rest.drop 1) := by
    rw [htext, skipPast_append hkey.noEquals, readValue?, if_pos (by cases pair.quote <;> decide),
      readQuoted_doubled pair.quote _ hquote, ← hskip]
    rfl
  have hne : pair.key.toList.isEmpty = false := by
    simpa using hkey.nonempty
  rw [readProperties_step (by rw [htext]; simp) hvalue, htake, hkey.trimList_eq, hne,
    String.ofList_toList, String.ofList_toList]
  rfl

/-- Quoted pairs with plain keys are read one after the other. -/
theorem readProperties_intercalate {pairs : List QuotedPair}
    (h : ∀ pair ∈ pairs, PlainKey pair.key) (properties : List (String × String)) :
    readProperties properties ([';'].intercalate (pairs.map (·.text.toList))) =
      .ok ((pairs.map kept).foldl (fun kept pair => set kept pair.1 pair.2) properties) := by
  induction pairs generalizing properties with
  | nil => rw [List.map_nil, List.intercalate_nil, readProperties]; rfl
  | cons pair pairs ih =>
    have hpair : PlainKey pair.key := h pair List.mem_cons_self
    have hpairs : ∀ pair ∈ pairs, PlainKey pair.key := fun q hq => h q (List.mem_cons_of_mem _ hq)
    cases pairs with
    | nil =>
      have hread := readProperties_text properties hpair fun c (hc : c ∈ [].head?) => by cases hc
      rw [List.append_nil] at hread
      rw [List.map_singleton, List.intercalate_singleton, hread, List.drop_nil, readProperties]
      rfl
    | cons second pairs =>
      rw [List.map_cons, List.map_cons, List.intercalate_cons_cons, List.append_assoc,
        readProperties_text properties hpair (by simp), List.singleton_append, List.drop_one,
        List.tail_cons]
      exact ih hpairs _

/-- What is written is read as it is, up to the keys and the order of repeated keys. -/
theorem parse_written {pairs : List QuotedPair} (h : ∀ pair ∈ pairs, PlainKey pair.key) :
    ∃ cs, parse (connectString pairs) = .ok cs ∧ Merges (pairs.map kept) cs.properties := by
  have htext : (connectString pairs).toList =
      scheme.toList ++ [';'].intercalate (pairs.map (·.text.toList)) := by
    rw [connectString, String.toList_append, String.toList_intercalate, List.map_map]
    rfl
  refine ⟨_, ?_, merges_foldl _⟩
  rw [parse, htext, if_pos (List.isPrefixOf_iff_prefix.mpr (List.prefix_append _ _)),
    ← String.length_toList, List.drop_left, readProperties_intercalate h]

theorem get?_eq_lookup (cs : ConnectString) (p : Property) :
    cs.get? p = cs.properties.lookup p.key := by
  have hfind : ∀ pairs : List (String × String),
      (pairs.find? (·.1 == p.key)).map (·.2) = pairs.lookup p.key := by
    intro pairs
    induction pairs with
    | nil => rfl
    | cons pair pairs ih =>
      rw [List.find?_cons, List.lookup_cons, BEq.comm]
      cases p.key == pair.1
      · exact ih
      · rfl
  exact hfind cs.properties

end ConnectString

namespace Settings

/-- The value that a property of the settings is written with. -/
def value? (settings : Settings) : Property → Option String
  | .server => some settings.server.url
  | .catalog => settings.session.catalog
  | .dataSource => settings.session.dataSourceInfo
  | .user => settings.server.user
  | .password => settings.server.password
  | .cookies => some (if settings.session.cookies then "true" else "false")
  | .timeout => some (toString settings.server.timeoutSeconds)

/-- The pairs that settings are written as. -/
def pairs (settings : Settings) : List QuotedPair :=
  Property.all.filterMap fun p =>
    (settings.value? p).map fun value => { key := p.key, value, quote := .double }

end Settings

namespace ConnectString

theorem plainKey_key (p : Property) : QuotedPair.PlainKey p.key := by
  cases p <;> decide

/-- What is found under a canonical key among pairs that are written for the properties of a
list. -/
theorem lookup_filterMap (value? : Property → Option String) (properties : List Property)
    (q : Property) :
    (properties.filterMap fun p =>
        (value? p).map fun value => (p.key, value)).reverse.lookup q.key =
      if q ∈ properties then value? q else none := by
  induction properties with
  | nil => rfl
  | cons p properties ih =>
    cases hvalue : value? p with
    | none =>
      rw [List.filterMap_cons_none (by rw [hvalue]; rfl), ih]
      by_cases hq : q = p
      · subst hq
        simp [hvalue]
      · simp [hq]
    | some value =>
      rw [List.filterMap_cons_some (by rw [hvalue]; rfl), List.reverse_cons, List.lookup_append, ih]
      by_cases hq : q = p
      · subst hq
        by_cases hmem : q ∈ properties <;> simp [hvalue, hmem]
      · have hne : (q.key == p.key) = false := by
          simpa using fun h => hq (Property.key_injective h)
        rw [List.lookup_cons, hne]
        simp [hq]

/-- The pairs that settings are written as give back each of their values. -/
theorem lookup_pairs (settings : Settings) (p : Property) :
    (settings.pairs.map QuotedPair.kept).reverse.lookup p.key = settings.value? p := by
  have hkept : settings.pairs.map QuotedPair.kept =
      Property.all.filterMap fun p => (settings.value? p).map fun value => (p.key, value) := by
    rw [Settings.pairs, List.map_filterMap]
    refine List.filterMap_congr fun p _ => ?_
    rw [Option.map_map]
    refine Option.map_congr fun value _ => ?_
    exact Prod.ext (canonicalKey_key p) rfl
  rw [hkept, lookup_filterMap, if_pos p.mem_all]

/-- A connect string that has the values of some settings makes these settings. -/
theorem toSettings_of_get? {cs : ConnectString} {settings : Settings}
    (htimeout : settings.server.timeoutSeconds < 2 ^ 64)
    (h : ∀ p, cs.get? p = settings.value? p) : cs.toSettings = .ok settings := by
  have hseconds : cs.timeoutSeconds = .ok settings.server.timeoutSeconds := by
    have hread : (IntegerRange.unsigned 64).read (toString settings.server.timeoutSeconds) =
        .ok settings.server.timeoutSeconds :=
      IntegerRange.read_toString (Int.le_refl 0) (Int.le_sub_one_of_lt (Int.ofNat_lt.mpr htimeout))
    rw [timeoutSeconds, h]
    simp only [Settings.value?, hread, Int.toNat_natCast]
  have hcookies : ((cs.get? .cookies).all fun text => !sameIgnoringCase text "false") =
      settings.session.cookies := by
    rw [h, Settings.value?]
    cases settings.session.cookies <;> rfl
  rw [toSettings, hcookies, h, h, h, h, h, hseconds]
  rfl

/-- Settings are what is read from the pairs they are written as. -/
theorem toSettings_of_merges {cs : ConnectString} {settings : Settings}
    (htimeout : settings.server.timeoutSeconds < 2 ^ 64)
    (h : Merges (settings.pairs.map QuotedPair.kept) cs.properties) :
    cs.toSettings = .ok settings := by
  refine toSettings_of_get? htimeout fun p => ?_
  rw [get?_eq_lookup, h.values, lookup_pairs]

theorem plainKey_of_mem_pairs (settings : Settings) :
    ∀ pair ∈ settings.pairs, QuotedPair.PlainKey pair.key := by
  intro pair hpair
  obtain ⟨p, -, hp⟩ := List.mem_filterMap.mp hpair
  obtain ⟨value, -, rfl⟩ := Option.map_eq_some_iff.mp hp
  exact plainKey_key p

/-- Connect strings say every list of pairs: each pair is kept with its value under the key it is
renamed to, and a key that comes again has its first place and its last value. So they say all
settings. -/
theorem parse_connectString (pairs : List QuotedPair)
    (hkeys : ∀ pair ∈ pairs, QuotedPair.PlainKey pair.key) (settings : Settings)
    (htimeout : settings.server.timeoutSeconds < 2 ^ 64) :
    (∃ cs renamed, parse (QuotedPair.connectString pairs) = .ok cs ∧
      List.Forall₂ QuotedPair.KeptAs pairs renamed ∧ Merges renamed cs.properties) ∧
    ∃ text cs, parse text = .ok cs ∧ cs.toSettings = .ok settings := by
  constructor
  · obtain ⟨cs, hparse, hmerges⟩ := parse_written hkeys
    exact ⟨cs, _, hparse, QuotedPair.forall₂_kept pairs, hmerges⟩
  · obtain ⟨cs, hparse, hmerges⟩ := parse_written (plainKey_of_mem_pairs settings)
    exact ⟨_, cs, hparse, toSettings_of_merges htimeout hmerges⟩

/-- Two of three pairs have one key in different letters, and the values are quotes, separators and
equals signs. -/
def serverTwice : List QuotedPair :=
  [⟨"SERVER", "';=\"", .single⟩, ⟨"a;b", "", .double⟩, ⟨"server", "\"\"", .double⟩]

/-- The settings with the longest timeout, and without cookies. -/
def longestTimeout : Settings :=
  { server := { url := ";", timeoutSeconds := 2 ^ 64 - 1 }, session := { cookies := false } }

theorem parse_connectString_serverTwice :
    (∀ pair ∈ serverTwice, QuotedPair.PlainKey pair.key) ∧
    longestTimeout.server.timeoutSeconds < 2 ^ 64 ∧
    (∃ cs renamed, parse (QuotedPair.connectString serverTwice) = .ok cs ∧
      List.Forall₂ QuotedPair.KeptAs serverTwice renamed ∧ Merges renamed cs.properties) ∧
    ∃ text cs, parse text = .ok cs ∧ cs.toSettings = .ok longestTimeout := by
  have hkeys : ∀ pair ∈ serverTwice, QuotedPair.PlainKey pair.key := by
    simp only [serverTwice, List.forall_mem_cons, List.not_mem_nil, false_imp_iff, implies_true,
      and_true]
    refine ⟨?_, ?_, ?_⟩ <;> decide
  have htimeout : longestTimeout.server.timeoutSeconds < 2 ^ 64 := by decide
  exact ⟨hkeys, htimeout, parse_connectString serverTwice hkeys longestTimeout htimeout⟩

end ConnectString

end CubeClient
