import CubeClient.Proofs.Cookie.History

/-!
# What a header sets

A header that sets a cookie is cut at semicolons, and its first piece at the first equals sign. Name
and value are the two parts of that piece, trimmed, whatever the attributes are (`read?_eq_some`),
so they hold no character that is not in the header.
-/

namespace CubeClient

open CubeClient.Text

theorem Text.mem_of_mem_trimList {cs : List Char} {c : Char} (h : c ∈ trimList cs) : c ∈ cs := by
  have hback : c ∈ ((cs.dropWhile isSpace).reverse.dropWhile isSpace) := List.mem_reverse.mp h
  have hfront : c ∈ (cs.dropWhile isSpace).reverse := (List.dropWhile_suffix _).subset hback
  exact (List.dropWhile_suffix _).subset (List.mem_reverse.mp hfront)

namespace SetCookie

/-- A pair is split at its first equals sign. -/
theorem splitPair_eq_some {text name value : List Char} (h : splitPair text = some (name, value)) :
    text = name ++ '=' :: value ∧ '=' ∉ name := by
  unfold splitPair at h
  split at h
  · cases h
  · rename_i c behind hdrop
    cases h
    have hc : c = '=' := by
      have hstop := List.head?_dropWhile_not (· != '=') text
      rw [hdrop] at hstop
      simpa using hstop
    have hsplit := List.takeWhile_append_dropWhile (p := (· != '=')) (l := text)
    rw [hdrop, hc] at hsplit
    refine ⟨hsplit.symm, fun hmem => ?_⟩
    have hne := List.mem_takeWhile_imp hmem
    simp at hne

/-- A name without an equals sign is split off whole, whatever the value is. -/
theorem splitPair_append {name : List Char} (h : '=' ∉ name) (value : List Char) :
    splitPair (name ++ '=' :: value) = some (name, value) := by
  have hbehind : ∀ c ∈ ('=' :: value).head?, c = '=' := by simp
  rw [splitPair, dropWhile_bne_run h hbehind, takeWhile_bne_run h hbehind]

/-- A header that sets a name is read by its attributes. -/
theorem read?_of_split {header : String} {key value : List Char} {attributes : List (List Char)}
    (hsplit : splitAt ';' header.toList = (key ++ '=' :: value) :: attributes) (hkey : '=' ∉ key)
    (hname : trimList key ≠ []) :
    read? header = (attributes.foldlM addAttribute { value := String.ofList (trimList value) }).map
      fun cookie => (String.ofList (trimList key), cookie) := by
  rw [read?, hsplit]
  simp only [splitPair_append hkey, List.isEmpty_iff, hname, if_false]

/-- An attribute does not touch the value of a cookie. -/
theorem value_addAttribute {cookie cookie' : Cookie} {text : List Char}
    (h : addAttribute cookie text = some cookie') : cookie'.value = cookie.value := by
  unfold addAttribute at h
  split at h
  · cases h
    rfl
  · obtain ⟨expires, -, rfl⟩ := Option.map_eq_some_iff.mp h
    rfl
  · cases h
    rfl

theorem value_foldlM_addAttribute {attributes : List (List Char)} {cookie cookie' : Cookie}
    (h : attributes.foldlM addAttribute cookie = some cookie') : cookie'.value = cookie.value := by
  induction attributes generalizing cookie with
  | nil =>
    cases h
    rfl
  | cons token attributes ih =>
    rw [List.foldlM_cons] at h
    obtain ⟨next, hnext, hrest⟩ := Option.bind_eq_some_iff.mp h
    exact (ih hrest).trans (value_addAttribute hnext)

/-- Where the name and the value of a cookie come from. -/
theorem read?_eq_some {header name : String} {cookie : Cookie}
    (h : read? header = some (name, cookie)) :
    ∃ key value attributes, splitAt ';' header.toList = (key ++ '=' :: value) :: attributes ∧
      '=' ∉ key ∧ trimList key ≠ [] ∧ name = String.ofList (trimList key) ∧
      cookie.value = String.ofList (trimList value) := by
  unfold read? at h
  split at h
  · cases h
  · rename_i first attributes hsplit
    split at h
    · cases h
    · rename_i key value hpair
      obtain ⟨rfl, hkey⟩ := splitPair_eq_some hpair
      simp only at h
      split at h
      · cases h
      · rename_i hname
        obtain ⟨kept, hkept, heq⟩ := Option.map_eq_some_iff.mp h
        cases heq
        refine ⟨key, value, attributes, hsplit, hkey, ?_, rfl, value_foldlM_addAttribute hkept⟩
        simpa using hname

/-- Name and value are taken from the header. -/
theorem mem_of_read? {header name : String} {cookie : Cookie}
    (h : read? header = some (name, cookie)) {c : Char}
    (hc : c ∈ name.toList ∨ c ∈ cookie.value.toList) : c ∈ header.toList := by
  obtain ⟨key, value, attributes, hsplit, -, -, rfl, hvalue⟩ := read?_eq_some h
  have hfirst : key ++ '=' :: value ∈ splitAt ';' header.toList := by
    rw [hsplit]
    exact List.mem_cons_self
  refine mem_of_mem_splitAt hfirst ?_
  rcases hc with hc | hc
  · rw [String.toList_ofList] at hc
    exact List.mem_append_left _ (mem_of_mem_trimList hc)
  · rw [hvalue, String.toList_ofList] at hc
    exact List.mem_append_right _ (List.mem_cons_of_mem _ (mem_of_mem_trimList hc))

end SetCookie

/-- A write of a response is that of one of its headers. -/
theorem CookieWrite.exists_of_mem_ofResponse {url : Url} {headers : List String}
    {write : CookieWrite} (h : write ∈ ofResponse url headers) :
    ∃ header ∈ headers, SetCookie.read? header = some (write.1.name, write.2) := by
  unfold ofResponse at h
  split at h
  · obtain ⟨header, hheader, hwrite⟩ := List.mem_filterMap.mp h
    obtain ⟨pair, hread, rfl⟩ := Option.map_eq_some_iff.mp hwrite
    exact ⟨header, hheader, hread⟩
  · cases h

/-- The cookies of a jar come from headers that have been stored. -/
theorem CookieJar.exists_of_mem_entries {events : List JarEvent} {entry : CookieWrite}
    (h : entry ∈ (run events).entries) :
    ∃ url headers header, .store url headers ∈ events ∧ header ∈ headers ∧
      SetCookie.read? header = some (entry.1.name, entry.2) := by
  rw [run_eq_ofWrites] at h
  obtain ⟨before, after, hwrites, -⟩ := mem_entries_ofWrites.mp h
  have hmem : entry ∈ JarEvent.writes events := by
    rw [hwrites]
    exact List.mem_append_right _ List.mem_cons_self
  obtain ⟨url, headers, hstore, hwrite⟩ := JarEvent.mem_writes hmem
  obtain ⟨header, hheader, hread⟩ := CookieWrite.exists_of_mem_ofResponse hwrite
  exact ⟨url, headers, header, hstore, hheader, hread⟩

end CubeClient
