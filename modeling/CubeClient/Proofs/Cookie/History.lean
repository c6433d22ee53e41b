import CubeClient.Cookie.Jar
import CubeClient.Proofs.Lists.Places
import CubeClient.Proofs.Text.Splitting
import Mathlib.Data.Finset.Card
import Mathlib.Data.List.Induction
import Mathlib.Data.List.TakeWhile

/-!
# The last write wins

A jar is compared with what has been done to it. The history of a jar is a list of stores and
clearings, and what counts of it are its writes since the last clearing: the headers that set a
cookie, each with the key it is kept under. The cookies of a jar are the last writes of their keys
(`mem_entries_ofWrites`), and from this follows what a later request is given
(`run_last_write_wins`).

That a jar is built from its writes alone is shown first (`run_eq_ofWrites`), so that no proof about
the contents of a jar has to look at headers or at clearings again.
-/

namespace CubeClient

open CubeClient.Text

/-! ## Headers that set no cookie -/

/-- Why a header sets no cookie. -/
inductive SetCookie.Unreadable (header : String) : Prop
  /-- Nothing is set to a value. -/
  | unassigned {first : List Char} {attributes : List (List Char)}
      (hsplit : splitAt ';' header.toList = first :: attributes) (h : '=' ∉ first)
  | nameless {first name value : List Char} {attributes : List (List Char)}
      (hsplit : splitAt ';' header.toList = first :: attributes)
      (hpair : splitPair first = some (name, value)) (h : trimList name = [])
  | expiry {first token : List Char} {attributes : List (List Char)}
      (hsplit : splitAt ';' header.toList = first :: attributes) (hmem : token ∈ attributes)
      (hkey : (readAttribute token).1 = "expires")
      (h : HeaderDate.read (readAttribute token).2 = none)

namespace SetCookie

theorem splitPair_eq_none_iff {text : List Char} : splitPair text = none ↔ '=' ∉ text := by
  have hdrop : splitPair text = none ↔ text.dropWhile (· != '=') = [] := by
    unfold splitPair
    split <;> simp_all
  rw [hdrop, List.dropWhile_eq_nil_iff]
  constructor
  · intro h hmem
    exact absurd (h '=' hmem) (by decide)
  · intro h c hc
    have hne : c ≠ '=' := fun heq => h (heq ▸ hc)
    simpa using hne

/-- An attribute spoils every cookie or none. -/
theorem addAttribute_eq_none_iff {cookie : Cookie} {text : List Char} :
    addAttribute cookie text = none ↔
      (readAttribute text).1 = "expires" ∧ HeaderDate.read (readAttribute text).2 = none := by
  unfold addAttribute
  rcases readAttribute text with ⟨key, value⟩
  split
  · rename_i h
    cases h
    simp
  · rename_i h
    cases h
    simp
  · rename_i hpath hexpires
    simp only [reduceCtorEq, false_iff, not_and]
    rintro rfl
    exact absurd rfl (hexpires value)

/-- Attributes are refused together if one of them is an expiry that is no date. -/
theorem foldlM_addAttribute_eq_none_iff {attributes : List (List Char)} {cookie : Cookie} :
    attributes.foldlM addAttribute cookie = none ↔
      ∃ token ∈ attributes, (readAttribute token).1 = "expires" ∧
        HeaderDate.read (readAttribute token).2 = none := by
  induction attributes generalizing cookie with
  | nil => simp
  | cons token attributes ih =>
    have hspoilt : addAttribute cookie token = none ↔ _ := addAttribute_eq_none_iff
    rw [List.foldlM_cons, List.exists_mem_cons_iff, ← hspoilt]
    cases hadd : addAttribute cookie token with
    | none => simp
    | some next => simpa using ih

/-- A header sets no cookie exactly if it is unreadable. -/
theorem read?_eq_none_iff {header : String} : read? header = none ↔ Unreadable header := by
  obtain ⟨first, attributes, hsplit⟩ :=
    List.exists_cons_of_ne_nil (splitAt_ne_nil ';' header.toList)
  unfold read?
  rw [hsplit]
  constructor
  · intro h
    cases hpair : splitPair first with
    | none => exact .unassigned hsplit (splitPair_eq_none_iff.mp hpair)
    | some pair =>
      obtain ⟨name, value⟩ := pair
      simp only [hpair] at h
      split at h
      · rename_i hempty
        exact .nameless hsplit hpair (List.isEmpty_iff.mp hempty)
      · rw [Option.map_eq_none_iff] at h
        obtain ⟨token, hmem, hkey, hread⟩ := foldlM_addAttribute_eq_none_iff.mp h
        exact .expiry hsplit hmem hkey hread
  · intro h
    cases h with
    | unassigned hsplit' h =>
      rw [hsplit] at hsplit'
      cases hsplit'
      simp only [splitPair_eq_none_iff.mpr h]
    | nameless hsplit' hpair h =>
      rw [hsplit] at hsplit'
      cases hsplit'
      simp only [hpair, h, List.isEmpty_nil, ↓reduceIte]
    | expiry hsplit' hmem hkey h =>
      rw [hsplit] at hsplit'
      cases hsplit'
      have hspoilt : ∀ cookie, attributes.foldlM addAttribute cookie = none := fun _ =>
        foldlM_addAttribute_eq_none_iff.mpr ⟨_, hmem, hkey, h⟩
      cases hpair : splitPair first with
      | none => simp only [hpair]
      | some pair => simp only [hpair, hspoilt, Option.map_none, ite_self]

end SetCookie

/-! ## Which requests a cookie is for -/

/-- A cookie is for requests to a path at an instant. -/
structure Cookie.IsFor (cookie : Cookie) (path : String) (now : Instant) : Prop where
  live : ∀ expires, cookie.expires = some expires →
    now.seconds < expires.seconds ∨ (now.seconds = expires.seconds ∧ now.nanos < expires.nanos)
  within : ∀ own, cookie.path = some own → own = "/" ∨ own.toList <+: path.toList

theorem Cookie.isFor_iff {cookie : Cookie} {path : String} {now : Instant} :
    cookie.IsFor path now ↔ cookie.isLive now = true ∧ cookie.matchesPath path = true := by
  have hlive : cookie.isLive now = true ↔ ∀ expires, cookie.expires = some expires →
      now.seconds < expires.seconds ∨
        (now.seconds = expires.seconds ∧ now.nanos < expires.nanos) := by
    simp [isLive, Instant.isBefore, Option.all_eq_true]
  have hpath : cookie.matchesPath path = true ↔
      ∀ own, cookie.path = some own → own = "/" ∨ own.toList <+: path.toList := by
    simp [matchesPath, Option.all_eq_true]
  rw [hlive, hpath]
  exact ⟨fun h => ⟨h.live, h.within⟩, fun h => ⟨h.1, h.2⟩⟩

/-! ## Histories -/

/-- What is done to a jar. -/
inductive JarEvent where
  | store (url : Url) (headers : List String)
  | clear
  deriving DecidableEq

/-- A cookie that is kept under a key. -/
abbrev CookieWrite := CookieKey × Cookie

/-- The write of a header from a domain; a header that sets no cookie writes nothing. -/
def CookieWrite.ofHeader (domain header : String) : Option CookieWrite :=
  (SetCookie.read? header).map fun (name, cookie) => (⟨domain, name⟩, cookie)

/-- The writes of the headers of a response from a URL, in order. -/
def CookieWrite.ofResponse (url : Url) (headers : List String) : List CookieWrite :=
  match url.cookieDomain? with
  | some domain => headers.filterMap (ofHeader domain)
  | none => []

/-- The cookies of a response are kept under the domain of its URL. -/
theorem CookieWrite.domain_of_mem_ofResponse {url : Url} {headers : List String}
    {write : CookieWrite} (h : write ∈ ofResponse url headers) :
    url.cookieDomain? = some write.1.domain := by
  unfold ofResponse at h
  split at h
  · rename_i domain hdomain
    obtain ⟨header, -, hheader⟩ := List.mem_filterMap.mp h
    obtain ⟨pair, -, rfl⟩ := Option.map_eq_some_iff.mp hheader
    exact hdomain
  · cases h

namespace JarEvent

/-- The writes that count after an event, when those before it are known. -/
def writesAfter (writes : List CookieWrite) : JarEvent → List CookieWrite
  | .store url headers => writes ++ CookieWrite.ofResponse url headers
  | .clear => []

/-- The writes since the last clearing, in order. -/
def writes (events : List JarEvent) : List CookieWrite :=
  events.foldl writesAfter []

theorem writes_concat (events : List JarEvent) (event : JarEvent) :
    writes (events ++ [event]) = event.writesAfter (writes events) := by
  simp only [writes, List.foldl_append, List.foldl_cons, List.foldl_nil]

/-- Every write that counts is from a response of the history. -/
theorem mem_writes {events : List JarEvent} {write : CookieWrite}
    (h : write ∈ writes events) :
    ∃ url headers, .store url headers ∈ events ∧ write ∈ CookieWrite.ofResponse url headers := by
  induction events using List.reverseRecOn with
  | nil => cases h
  | append_singleton events event ih =>
    rw [writes_concat] at h
    cases event with
    | clear => cases h
    | store url headers =>
      rcases List.mem_append.mp h with h | h
      · obtain ⟨url', headers', hmem, hwrite⟩ := ih h
        exact ⟨url', headers', List.mem_append_left _ hmem, hwrite⟩
      · exact ⟨url, headers, by simp, h⟩

/-- The jar after an event. -/
def apply (jar : CookieJar) : JarEvent → CookieJar
  | .store url headers => jar.store url headers
  | .clear => .empty

end JarEvent

/-- The last write of a key is that of a cookie. -/
def IsLastWrite (writes : List CookieWrite) (key : CookieKey) (cookie : Cookie) : Prop :=
  ∃ before after, writes = before ++ (key, cookie) :: after ∧ ∀ write ∈ after, write.1 ≠ key

theorem not_isLastWrite_nil {key : CookieKey} {cookie : Cookie} :
    ¬ IsLastWrite [] key cookie := by
  rintro ⟨before, after, h, -⟩
  exact absurd h (by simp)

theorem isLastWrite_concat {writes : List CookieWrite} {write : CookieWrite} {key : CookieKey}
    {cookie : Cookie} : IsLastWrite (writes ++ [write]) key cookie ↔
      write = (key, cookie) ∨ (write.1 ≠ key ∧ IsLastWrite writes key cookie) :=
  exists_last_concat

theorem isLastWrite_append {writes others : List CookieWrite} {key : CookieKey} {cookie : Cookie}
    (h : ∀ write ∈ others, write.1 ≠ key) :
    IsLastWrite (writes ++ others) key cookie ↔ IsLastWrite writes key cookie := by
  induction others using List.reverseRecOn with
  | nil => rw [List.append_nil]
  | append_singleton others write ih =>
    obtain ⟨hothers, hwrite⟩ := List.forall_mem_append.mp h
    have hne : write.1 ≠ key := hwrite write List.mem_cons_self
    rw [← List.append_assoc, isLastWrite_concat, ih hothers]
    constructor
    · rintro (rfl | ⟨-, h⟩)
      · exact absurd rfl hne
      · exact h
    · exact fun h => .inr ⟨hne, h⟩

/-! ## A jar is built from its writes -/

namespace CookieJar

/-- The jar that writes lead to. -/
def ofWrites (writes : List CookieWrite) : CookieJar :=
  writes.foldl (fun jar write => jar.insert write.1 write.2) .empty

theorem ofWrites_concat (writes : List CookieWrite) (write : CookieWrite) :
    ofWrites (writes ++ [write]) = (ofWrites writes).insert write.1 write.2 := by
  simp only [ofWrites, List.foldl_append, List.foldl_cons, List.foldl_nil]

/-- The jar after a history. -/
def run (events : List JarEvent) : CookieJar :=
  events.foldl JarEvent.apply .empty

theorem storeHeader_ofWrites (domain header : String) (writes : List CookieWrite) :
    storeHeader domain (ofWrites writes) header =
      ofWrites (writes ++ (CookieWrite.ofHeader domain header).toList) := by
  unfold storeHeader CookieWrite.ofHeader
  cases SetCookie.read? header with
  | none => simp
  | some pair => simp [ofWrites_concat]

theorem store_ofWrites (url : Url) (headers : List String) (writes : List CookieWrite) :
    (ofWrites writes).store url headers =
      ofWrites (writes ++ CookieWrite.ofResponse url headers) := by
  unfold store CookieWrite.ofResponse
  cases url.cookieDomain? with
  | none => simp
  | some domain =>
    show headers.foldl (storeHeader domain) (ofWrites writes) =
      ofWrites (writes ++ headers.filterMap (CookieWrite.ofHeader domain))
    induction headers generalizing writes with
    | nil => simp
    | cons header headers ih =>
      rw [List.foldl_cons, storeHeader_ofWrites, ih, List.append_assoc]
      congr 2
      cases h : CookieWrite.ofHeader domain header <;> simp [h]

/-- A jar is what its writes since the last clearing make of it. -/
theorem run_eq_ofWrites (events : List JarEvent) :
    run events = ofWrites (JarEvent.writes events) := by
  induction events using List.reverseRecOn with
  | nil => rfl
  | append_singleton events event ih =>
    have hrun : run (events ++ [event]) = event.apply (run events) := by
      simp only [run, List.foldl_append, List.foldl_cons, List.foldl_nil]
    rw [hrun, JarEvent.writes_concat, ih]
    cases event with
    | store url headers => exact store_ofWrites url headers _
    | clear => rfl

/-! ## The cookies of a jar -/

theorem mem_insert {jar : CookieJar} {key : CookieKey} {cookie : Cookie} {entry : CookieWrite} :
    entry ∈ (jar.insert key cookie).entries ↔
      entry = (key, cookie) ∨ (entry.1 ≠ key ∧ entry ∈ jar.entries) := by
  simp only [insert, List.mem_append, List.mem_filter, bne_iff_ne, List.mem_singleton]
  tauto

/-- A key that is written again moves to the end. -/
theorem keys_insert (jar : CookieJar) (key : CookieKey) (cookie : Cookie) :
    (jar.insert key cookie).entries.map Prod.fst =
      (jar.entries.map Prod.fst).filter (· != key) ++ [key] := by
  simp only [insert, List.map_append, List.map_cons, List.map_nil, List.filter_map]
  rfl

/-- The cookies of a jar are the last writes of their keys. -/
theorem mem_entries_ofWrites {writes : List CookieWrite} {key : CookieKey} {cookie : Cookie} :
    (key, cookie) ∈ (ofWrites writes).entries ↔ IsLastWrite writes key cookie := by
  induction writes using List.reverseRecOn with
  | nil => exact iff_of_false List.not_mem_nil not_isLastWrite_nil
  | append_singleton writes write ih =>
    rw [ofWrites_concat, mem_insert, isLastWrite_concat, ih]
    exact or_congr eq_comm (and_congr_left fun _ => ne_comm)

/-- A jar keeps one cookie of a key. -/
theorem nodup_keys_ofWrites (writes : List CookieWrite) :
    ((ofWrites writes).entries.map Prod.fst).Nodup := by
  induction writes using List.reverseRecOn with
  | nil => exact List.nodup_nil
  | append_singleton writes write ih =>
    rw [ofWrites_concat, keys_insert]
    refine List.Nodup.append (ih.filter _) (List.nodup_singleton _) ?_
    intro key hkey hlast
    obtain rfl := List.mem_singleton.mp hlast
    exact absurd (List.mem_filter.mp hkey).2 (by simp)

/-- A jar keeps a cookie of every key that was written. -/
theorem toFinset_keys_ofWrites (writes : List CookieWrite) :
    ((ofWrites writes).entries.map Prod.fst).toFinset = (writes.map Prod.fst).toFinset := by
  induction writes using List.reverseRecOn with
  | nil => rfl
  | append_singleton writes write ih =>
    ext key
    rw [ofWrites_concat, keys_insert]
    have hkey := Finset.ext_iff.mp ih key
    simp only [List.mem_toFinset] at hkey
    simp only [List.mem_toFinset, List.mem_append, List.mem_filter, bne_iff_ne,
      List.mem_singleton, List.map_append, List.map_cons, List.map_nil, ← hkey]
    tauto

/-- A jar is as large as there are keys among its writes. -/
theorem size_ofWrites (writes : List CookieWrite) :
    (ofWrites writes).size = (writes.map Prod.fst).toFinset.card := by
  rw [← toFinset_keys_ofWrites, List.toFinset_card_of_nodup (nodup_keys_ofWrites writes), size,
    List.length_map]

/-! ## The cookies of a request -/

/-- The names and values that a request is given. -/
def pairs (jar : CookieJar) (url : Url) (now : Instant) : List (String × String) :=
  (jar.applicable url now).map fun (name, cookie) => (name, cookie.value)

/-- The cookies that apply to a URL are those of its domain that are for its path and live. -/
theorem mem_applicable {jar : CookieJar} {url : Url} {now : Instant} {name : String}
    {cookie : Cookie} :
    (name, cookie) ∈ jar.applicable url now ↔ ∃ domain, url.cookieDomain? = some domain ∧
      (⟨domain, name⟩, cookie) ∈ jar.entries ∧ cookie.IsFor url.pathText now := by
  unfold applicable
  cases url.cookieDomain? with
  | none => simp
  | some domain =>
    simp only [List.mem_filterMap, Option.some.injEq, exists_eq_left', Cookie.isFor_iff]
    constructor
    · rintro ⟨⟨key, kept⟩, hmem, h⟩
      split at h
      · rename_i hfor
        obtain ⟨rfl, rfl⟩ := Prod.mk.inj (Option.some.inj h)
        obtain ⟨rfl, hlive, hpath⟩ := hfor
        exact ⟨hmem, hlive, hpath⟩
      · cases h
    · rintro ⟨hmem, hlive, hpath⟩
      exact ⟨_, hmem, by rw [if_pos ⟨rfl, hlive, hpath⟩]⟩

/-- No name is given twice to a URL. -/
theorem nodup_names_applicable {jar : CookieJar} (h : (jar.entries.map Prod.fst).Nodup)
    (url : Url) (now : Instant) : ((jar.applicable url now).map Prod.fst).Nodup := by
  unfold applicable
  cases url.cookieDomain? with
  | none => exact List.nodup_nil
  | some domain =>
    have hentries : jar.entries.Pairwise fun a b => a.1 ≠ b.1 := List.pairwise_map.mp h
    refine List.pairwise_map.mpr (List.Pairwise.filterMap _ (fun a b hab x hx y hy => ?_) hentries)
    obtain ⟨key, cookie⟩ := a
    obtain ⟨key', cookie'⟩ := b
    simp only [Option.ite_none_right_eq_some, Option.some.injEq] at hx hy
    obtain ⟨hx, rfl⟩ := hx
    obtain ⟨hy, rfl⟩ := hy
    intro hname
    have hdomain : key.domain = key'.domain := hx.1.trans hy.1.symm
    apply hab
    cases key
    cases key'
    simp_all

/-- The header is the pairs one after the other, and there is none without a pair. -/
theorem header?_eq (jar : CookieJar) (url : Url) (now : Instant) :
    jar.header? url now =
      if jar.pairs url now = [] then none
      else
        some ("; ".intercalate ((jar.pairs url now).map fun pair => pair.1 ++ "=" ++ pair.2)) := by
  unfold header? pairs
  cases jar.applicable url now with
  | nil => rfl
  | cons first rest => simp [Function.comp_def]

/-! ## Other domains -/

/-- The entries of one domain. -/
def entriesOf (jar : CookieJar) (domain : String) : List CookieWrite :=
  jar.entries.filter (·.1.domain == domain)

/-- What is kept of a domain comes from the writes of that domain. -/
theorem entriesOf_ofWrites (writes : List CookieWrite) (domain : String) :
    (ofWrites writes).entriesOf domain =
      (ofWrites (writes.filter (·.1.domain == domain))).entries := by
  induction writes using List.reverseRecOn with
  | nil => rfl
  | append_singleton writes write ih =>
    have hinsert : ((ofWrites writes).insert write.1 write.2).entriesOf domain =
        ((ofWrites writes).entriesOf domain).filter (·.1 != write.1) ++
          [write].filter (·.1.domain == domain) := by
      simp only [entriesOf, insert, List.filter_append, List.filter_filter, Bool.and_comm]
    rw [ofWrites_concat, List.filter_append, hinsert, ih]
    by_cases hdomain : write.1.domain = domain
    · rw [List.filter_cons_of_pos (by simpa using hdomain), List.filter_nil, ofWrites_concat]
      rfl
    · rw [List.filter_cons_of_neg (by simpa using hdomain), List.filter_nil, List.append_nil,
        List.append_nil, ← ih, entriesOf, List.filter_filter]
      refine List.filter_congr fun entry _ => ?_
      by_cases hentry : entry.1.domain = domain
      · have hne : entry.1 ≠ write.1 := fun h => hdomain (h ▸ hentry)
        simp [hne]
      · simp [hentry]

/-- What applies to a URL depends on the cookies of its domain alone. -/
theorem applicable_eq_of_entriesOf {jar jar' : CookieJar} {url : Url} {now : Instant}
    (h : ∀ domain, url.cookieDomain? = some domain →
      jar.entriesOf domain = jar'.entriesOf domain) :
    jar.applicable url now = jar'.applicable url now := by
  have hown : ∀ (jar : CookieJar) (domain : String), url.cookieDomain? = some domain →
      jar.applicable url now = (jar.entriesOf domain).filterMap fun (key, cookie) =>
        if cookie.isLive now ∧ cookie.matchesPath url.pathText then some (key.name, cookie)
        else none := by
    intro jar domain hdomain
    simp only [applicable, hdomain, entriesOf, List.filterMap_filter]
    refine List.filterMap_congr fun entry _ => ?_
    by_cases hentry : entry.1.domain = domain <;> simp [hentry]
  cases hdomain : url.cookieDomain? with
  | none => simp only [applicable, hdomain]
  | some domain => rw [hown jar domain hdomain, hown jar' domain hdomain, h domain hdomain]

end CookieJar

/-- Stores from elsewhere are not among the writes of a domain. -/
theorem JarEvent.filter_writes_store {url : Url} {domain : String}
    (hdomain : url.cookieDomain? ≠ some domain) (before after : List JarEvent)
    (headers : List String) :
    (writes (before ++ .store url headers :: after)).filter (·.1.domain == domain) =
      (writes (before ++ after)).filter (·.1.domain == domain) := by
  have hnone : (CookieWrite.ofResponse url headers).filter (·.1.domain == domain) = [] := by
    rw [List.filter_eq_nil_iff]
    intro write hwrite hkept
    apply hdomain
    rw [CookieWrite.domain_of_mem_ofResponse hwrite, beq_iff_eq.mp hkept]
  induction after using List.reverseRecOn with
  | nil =>
    rw [writes_concat, writesAfter, List.filter_append, hnone, List.append_nil, List.append_nil]
  | append_singleton after event ih =>
    rw [← List.append_assoc, writes_concat, ← List.cons_append, ← List.append_assoc, writes_concat]
    cases event with
    | store url headers => simp only [writesAfter, List.filter_append, ih]
    | clear => rfl

/-! ## The last write wins -/

/-- What a jar answers after a history. -/
structure LastWriteWins (events : List JarEvent) : Prop where
  /-- A request is given the names whose last write is for it, each once and with the value of this
  write. -/
  given : ∀ (url : Url) (now : Instant),
    (((CookieJar.run events).pairs url now).map Prod.fst).Nodup ∧
    ∀ name value, (name, value) ∈ (CookieJar.run events).pairs url now ↔
      ∃ domain cookie, url.cookieDomain? = some domain ∧
        IsLastWrite (JarEvent.writes events) ⟨domain, name⟩ cookie ∧
        cookie.IsFor url.pathText now ∧ cookie.value = value
  /-- The header is made of these, and there is none exactly if there are none. -/
  header : ∀ (url : Url) (now : Instant), (CookieJar.run events).header? url now =
    if (CookieJar.run events).pairs url now = [] then none
    else some ("; ".intercalate
      (((CookieJar.run events).pairs url now).map fun pair => pair.1 ++ "=" ++ pair.2))
  /-- A header that cannot be read changes nothing. -/
  unreadable : ∀ (url : Url) (before after : List String) (header : String),
    SetCookie.Unreadable header →
    (CookieJar.run events).store url (before ++ header :: after) =
      (CookieJar.run events).store url (before ++ after)
  /-- Any other header is a write. -/
  readable : ∀ (domain header : String), ¬ SetCookie.Unreadable header →
    ∃ name cookie, CookieWrite.ofHeader domain header = some (⟨domain, name⟩, cookie)
  /-- What is stored from another domain makes no difference, whenever it is stored. -/
  elsewhere : ∀ (before after : List JarEvent) (url other : Url) (headers : List String)
    (now : Instant), events = before ++ after → other.cookieDomain? ≠ url.cookieDomain? →
    (CookieJar.run (before ++ .store other headers :: after)).header? url now =
      (CookieJar.run events).header? url now
  size : (CookieJar.run events).size = ((JarEvent.writes events).map Prod.fst).toFinset.card

namespace CookieJar

theorem mem_pairs {jar : CookieJar} {url : Url} {now : Instant} {name value : String} :
    (name, value) ∈ jar.pairs url now ↔ ∃ domain cookie, url.cookieDomain? = some domain ∧
      (⟨domain, name⟩, cookie) ∈ jar.entries ∧ cookie.IsFor url.pathText now ∧
      cookie.value = value := by
  simp only [pairs, List.mem_map, Prod.mk.injEq, Prod.exists]
  constructor
  · rintro ⟨name', cookie, hmem, rfl, hvalue⟩
    obtain ⟨domain, hdomain, hentry, hfor⟩ := mem_applicable.mp hmem
    exact ⟨domain, cookie, hdomain, hentry, hfor, hvalue⟩
  · rintro ⟨domain, cookie, hdomain, hentry, hfor, hvalue⟩
    exact ⟨name, cookie, mem_applicable.mpr ⟨domain, hdomain, hentry, hfor⟩, rfl, hvalue⟩

/-- An unreadable header is passed over, and the others of the response count as without it. -/
theorem store_unreadable {header : String} (h : SetCookie.Unreadable header) (jar : CookieJar)
    (url : Url) (before after : List String) :
    jar.store url (before ++ header :: after) = jar.store url (before ++ after) := by
  have hskip : ∀ (domain : String) (jar : CookieJar), storeHeader domain jar header = jar := by
    intro domain jar
    rw [storeHeader, SetCookie.read?_eq_none_iff.mpr h]
  unfold store
  cases url.cookieDomain? with
  | none => rfl
  | some domain => simp only [List.foldl_append, List.foldl_cons, hskip]

/-- A response from another domain makes no difference to a URL. -/
theorem header?_elsewhere {url other : Url} (h : other.cookieDomain? ≠ url.cookieDomain?)
    (before after : List JarEvent) (headers : List String) (now : Instant) :
    (run (before ++ .store other headers :: after)).header? url now =
      (run (before ++ after)).header? url now := by
  have happlicable : (run (before ++ .store other headers :: after)).applicable url now =
      (run (before ++ after)).applicable url now := by
    refine applicable_eq_of_entriesOf fun domain hdomain => ?_
    rw [run_eq_ofWrites, run_eq_ofWrites, entriesOf_ofWrites, entriesOf_ofWrites,
      JarEvent.filter_writes_store (hdomain ▸ h)]
  unfold header?
  rw [happlicable]

/-- What a jar answers depends on the last write of each key alone, whatever has been done to it. -/
theorem run_last_write_wins (events : List JarEvent) : LastWriteWins events where
  given url now := by
    rw [run_eq_ofWrites]
    refine ⟨?_, fun name value => ?_⟩
    · have hnames := nodup_names_applicable (nodup_keys_ofWrites (JarEvent.writes events)) url now
      simpa only [pairs, List.map_map, Function.comp_def] using hnames
    · simp only [mem_pairs, mem_entries_ofWrites]
  header url now := header?_eq _ url now
  unreadable url before after header h := store_unreadable h _ url before after
  readable domain header h := by
    obtain ⟨⟨name, cookie⟩, hread⟩ :=
      Option.ne_none_iff_exists'.mp fun hnone => h (SetCookie.read?_eq_none_iff.mp hnone)
    exact ⟨name, cookie, by rw [CookieWrite.ofHeader, hread]; rfl⟩
  elsewhere before after url other headers now hevents h := by
    rw [hevents]
    exact header?_elsewhere h before after headers now
  size := by rw [run_eq_ofWrites, size_ofWrites]

end CookieJar

end CubeClient
