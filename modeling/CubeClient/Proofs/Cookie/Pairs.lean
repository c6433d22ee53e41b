import CubeClient.Proofs.Cookie.Reading
import CubeClient.Proofs.Failure
import CubeClient.Proofs.Text.Trimming

/-!
# What a request says of its cookies

A jar keeps nothing that a header of a request cannot say: names and values hold no semicolon, and
names no equals sign (`CookieJar.plain_of_mem_entries`). This is what a single header keeps when it
is cut at semicolons and equals signs, and every later header keeps it. So a server that cuts the
header of a request in the same places gets the cookies of the request back, each once and whole
(`CookieJar.run_read_back`).
-/

namespace CubeClient

open CubeClient.Text

/-! ## What a header leaves of its text -/

/-- A text that can stand between the semicolons of a header. -/
structure PlainPart (text : String) : Prop where
  trimmed : Trimmed text.toList
  noSeparator : ';' ∉ text.toList

/-- A name that can stand in front of the equals sign of a cookie. -/
structure PlainName (name : String) : Prop extends PlainPart name where
  nonempty : name ≠ ""
  noEquals : '=' ∉ name.toList

/-- A cookie that a header can say under a name. -/
structure PlainCookie (name : String) (cookie : Cookie) : Prop where
  name : PlainName name
  value : PlainPart cookie.value
  path : ∀ path, cookie.path = some path → PlainPart path

theorem PlainPart.of_trimList {cs : List Char} (h : ';' ∉ cs) :
    PlainPart (String.ofList (trimList cs)) where
  trimmed := by
    rw [String.toList_ofList]
    exact trimmed_trimList cs
  noSeparator := by
    rw [String.toList_ofList]
    exact fun hmem => h (mem_of_mem_trimList hmem)

namespace SetCookie

theorem plainPart_readAttribute {token : List Char} (h : ';' ∉ token) :
    PlainPart (readAttribute token).2 := by
  cases hpair : splitPair token with
  | none =>
    simp only [readAttribute, hpair]
    exact .of_trimList List.not_mem_nil
  | some pair =>
    obtain ⟨rfl, -⟩ := splitPair_eq_some hpair
    simp only [readAttribute, hpair]
    refine .of_trimList fun hmem => h ?_
    exact List.mem_append_right _ (List.mem_cons_of_mem _ hmem)

/-- An attribute leaves the path as it is, or is the path. -/
theorem path_addAttribute {cookie cookie' : Cookie} {token : List Char}
    (h : addAttribute cookie token = some cookie') :
    cookie'.path = cookie.path ∨ cookie'.path = some (readAttribute token).2 := by
  unfold addAttribute at h
  split at h
  · rename_i hkey
    cases h
    exact .inr (by rw [hkey])
  · obtain ⟨expires, -, rfl⟩ := Option.map_eq_some_iff.mp h
    exact .inl rfl
  · cases h
    exact .inl rfl

/-- A path is plain, be it that of the cookie before or one of the attributes. -/
theorem plain_foldlM_addAttribute {attributes : List (List Char)} {cookie cookie' : Cookie}
    (hattributes : ∀ token ∈ attributes, ';' ∉ token)
    (hpath : ∀ path, cookie.path = some path → PlainPart path)
    (h : attributes.foldlM addAttribute cookie = some cookie') :
    ∀ path, cookie'.path = some path → PlainPart path := by
  induction attributes generalizing cookie with
  | nil =>
    cases h
    exact hpath
  | cons token attributes ih =>
    obtain ⟨htoken, hattributes⟩ := List.forall_mem_cons.mp hattributes
    rw [List.foldlM_cons] at h
    obtain ⟨next, hnext, hrest⟩ := Option.bind_eq_some_iff.mp h
    refine ih hattributes (fun path hsome => ?_) hrest
    rcases path_addAttribute hnext with heq | heq
    · exact hpath path (heq ▸ hsome)
    · rw [heq] at hsome
      cases hsome
      exact plainPart_readAttribute htoken

/-- What a header sets can be said in a header. -/
theorem plain_of_read? {header name : String} {cookie : Cookie}
    (h : read? header = some (name, cookie)) : PlainCookie name cookie := by
  obtain ⟨key, value, attributes, hsplit, hkey, hname, rfl, hvalue⟩ := read?_eq_some h
  have hpieces : ∀ piece ∈ (key ++ '=' :: value) :: attributes, ';' ∉ piece := by
    intro piece hpiece
    rw [← hsplit] at hpiece
    exact not_mem_of_mem_splitAt hpiece
  obtain ⟨hfirst, hattributes⟩ := List.forall_mem_cons.mp hpieces
  rw [read?_of_split hsplit hkey hname] at h
  obtain ⟨kept, hkept, heq⟩ := Option.map_eq_some_iff.mp h
  cases heq
  have hpath : ∀ path, (none : Option String) = some path → PlainPart path := fun _ h => nomatch h
  refine ⟨⟨.of_trimList ?_, ?_, ?_⟩, ?_, plain_foldlM_addAttribute hattributes hpath hkept⟩
  · exact fun hmem => hfirst (List.mem_append_left _ hmem)
  · simpa using hname
  · rw [String.toList_ofList]
    exact fun hmem => hkey (mem_of_mem_trimList hmem)
  · rw [hvalue]
    exact .of_trimList fun hmem => hfirst (List.mem_append_right _ (List.mem_cons_of_mem _ hmem))

end SetCookie

/-- Whatever is stored, a jar keeps only plain cookies. -/
theorem CookieJar.plain_of_mem_entries {events : List JarEvent} {entry : CookieWrite}
    (h : entry ∈ (run events).entries) : PlainCookie entry.1.name entry.2 := by
  obtain ⟨-, -, header, -, -, hread⟩ := exists_of_mem_entries h
  exact SetCookie.plain_of_read? hread

/-! ## Reading the header of a request -/

namespace RequestCookies

/-- A text cut wherever a semicolon and a space stand. -/
def pieces : List Char → List (List Char)
  | [] => [[]]
  | ';' :: ' ' :: rest => [] :: pieces rest
  | c :: rest => (pieces rest).modifyHead (c :: ·)

/-- The names and values of a header. -/
def read? (header : String) : Option (List (String × String)) :=
  (pieces header.toList).mapM fun piece =>
    (SetCookie.splitPair piece).map fun (name, value) => (String.ofList name, String.ofList value)

theorem pieces_cons {c : Char} (h : c ≠ ';') (cs : List Char) :
    pieces (c :: cs) = (pieces cs).modifyHead (c :: ·) := by
  rw [pieces]
  exact fun rest hc => absurd hc h

/-- A piece without a semicolon ends at the first separator. -/
theorem pieces_append {piece : List Char} (h : ';' ∉ piece) (rest : List Char) :
    pieces (piece ++ ';' :: ' ' :: rest) = piece :: pieces rest := by
  induction piece with
  | nil => rfl
  | cons c piece ih =>
    obtain ⟨hc, hpiece⟩ := not_or.mp (List.mem_cons.not.mp h)
    rw [List.cons_append, pieces_cons (Ne.symm hc), ih hpiece]
    rfl

theorem pieces_of_notMem {piece : List Char} (h : ';' ∉ piece) : pieces piece = [piece] := by
  induction piece with
  | nil => rfl
  | cons c piece ih =>
    obtain ⟨hc, hpiece⟩ := not_or.mp (List.mem_cons.not.mp h)
    rw [pieces_cons (Ne.symm hc), ih hpiece]
    rfl

/-- Pieces without semicolons come back from their joined text. -/
theorem pieces_intercalate {parts : List (List Char)} (hne : parts ≠ [])
    (h : ∀ part ∈ parts, ';' ∉ part) : pieces ([';', ' '].intercalate parts) = parts := by
  induction parts with
  | nil => exact absurd rfl hne
  | cons part parts ih =>
    obtain ⟨hpart, hparts⟩ := List.forall_mem_cons.mp h
    cases parts with
    | nil => rw [List.intercalate_singleton, pieces_of_notMem hpart]
    | cons second parts =>
      rw [List.intercalate_cons_cons, List.append_assoc, List.cons_append, List.cons_append,
        List.nil_append, pieces_append hpart, ih (List.cons_ne_nil _ _) hparts]

/-- What is said of plain names and values is read back. -/
theorem read?_intercalate {pairs : List (String × String)} (hne : pairs ≠ [])
    (h : ∀ pair ∈ pairs, PlainName pair.1 ∧ PlainPart pair.2) :
    read? ("; ".intercalate (pairs.map fun pair => pair.1 ++ "=" ++ pair.2)) = some pairs := by
  have hparts : ∀ part ∈ pairs.map fun pair => pair.1.toList ++ '=' :: pair.2.toList,
      ';' ∉ part := by
    intro part hpart
    obtain ⟨pair, hpair, rfl⟩ := List.mem_map.mp hpart
    obtain ⟨hname, hvalue⟩ := h pair hpair
    simp [hname.noSeparator, hvalue.noSeparator]
  have htext : ("; ".intercalate (pairs.map fun pair => pair.1 ++ "=" ++ pair.2)).toList =
      [';', ' '].intercalate (pairs.map fun pair => pair.1.toList ++ '=' :: pair.2.toList) := by
    rw [String.toList_intercalate, List.map_map]
    simp [Function.comp_def]
  rw [read?, htext, pieces_intercalate (by simpa using hne) hparts]
  refine mapM_of_forall₂ (List.forall₂_map_left_iff.mpr (List.forall₂_same.mpr ?_))
  intro pair hpair
  have hsplit := SetCookie.splitPair_append (h pair hpair).1.noEquals pair.2.toList
  simp only [hsplit, Option.map_some, String.ofList_toList]

example : read? "a=b=c; d=" = some [("a", "b=c"), ("d", "")] := by
  decide

/-- The names and values that a request is given by its header, or by having none. -/
def given (header? : Option String) : Option (List (String × String)) :=
  header?.elim (some []) read?

end RequestCookies

/-! ## The cookies of a request -/

/-- What a request says of its cookies after a history of the jar. -/
structure ReadBack (events : List JarEvent) : Prop where
  /-- All that is kept can be said. -/
  plain : ∀ entry ∈ (CookieJar.run events).entries, PlainCookie entry.1.name entry.2
  /-- The header of a request is read as the names and values of its cookies. -/
  given : ∀ url now, RequestCookies.given ((CookieJar.run events).header? url now) =
    some ((CookieJar.run events).pairs url now)
  once : ∀ url now, (((CookieJar.run events).pairs url now).map Prod.fst).Nodup
  /-- These are the kept cookies that are for the request, and nothing else. -/
  applicable : ∀ url now name value, (name, value) ∈ (CookieJar.run events).pairs url now ↔
    ∃ domain cookie, url.cookieDomain? = some domain ∧
      (⟨domain, name⟩, cookie) ∈ (CookieJar.run events).entries ∧
      cookie.IsFor url.pathText now ∧ cookie.value = value
  /-- A response makes no difference to cookies of other names than those it sets. -/
  others : ∀ source headers url now name value,
    (∀ header ∈ headers, ∀ cookie, SetCookie.read? header ≠ some (name, cookie)) →
    ((name, value) ∈ (CookieJar.run (events ++ [.store source headers])).pairs url now ↔
      (name, value) ∈ (CookieJar.run events).pairs url now)

namespace CookieJar

/-- The pairs for a URL are plain. -/
theorem plain_of_mem_pairs {events : List JarEvent} {url : Url} {now : Instant}
    {pair : String × String} (h : pair ∈ (run events).pairs url now) :
    PlainName pair.1 ∧ PlainPart pair.2 := by
  obtain ⟨domain, cookie, -, hentry, -, hvalue⟩ := mem_pairs.mp h
  have hplain := plain_of_mem_entries hentry
  exact ⟨hplain.name, hvalue ▸ hplain.value⟩

/-- A server reads the pairs back from the header, each of them and in order. -/
theorem given_header? (events : List JarEvent) (url : Url) (now : Instant) :
    RequestCookies.given ((run events).header? url now) = some ((run events).pairs url now) := by
  rw [header?_eq]
  split
  · rename_i hnone
    rw [hnone]
    rfl
  · rename_i hsome
    exact RequestCookies.read?_intercalate hsome fun _ => plain_of_mem_pairs

/-- A response that does not set a pair neither adds it nor takes it away. -/
theorem mem_pairs_store {events : List JarEvent} {source url : Url} {headers : List String}
    {now : Instant} {name value : String}
    (h : ∀ header ∈ headers, ∀ cookie, SetCookie.read? header ≠ some (name, cookie)) :
    (name, value) ∈ (run (events ++ [.store source headers])).pairs url now ↔
      (name, value) ∈ (run events).pairs url now := by
  have hothers : ∀ domain, ∀ write ∈ CookieWrite.ofResponse source headers,
      write.1 ≠ ⟨domain, name⟩ := by
    intro domain write hwrite hkey
    obtain ⟨header, hheader, hread⟩ := CookieWrite.exists_of_mem_ofResponse hwrite
    rw [hkey] at hread
    exact h header hheader _ hread
  simp only [mem_pairs, run_eq_ofWrites, JarEvent.writes_concat, JarEvent.writesAfter,
    mem_entries_ofWrites, isLastWrite_append (hothers _)]

/-- The header of a request says the cookies that are for it, and no header that has been stored can
make it say anything else. -/
theorem run_read_back (events : List JarEvent) : ReadBack events where
  plain _ := plain_of_mem_entries
  given url now := given_header? events url now
  once url now := by
    rw [run_eq_ofWrites, pairs, List.map_map]
    exact nodup_names_applicable (nodup_keys_ofWrites (JarEvent.writes events)) url now
  applicable _ _ _ _ := mem_pairs
  others _ _ _ _ _ _ h := mem_pairs_store h

end CookieJar

end CubeClient
