import CubeClient.Proofs.Cookie.History
import CubeClient.Proofs.Url.HostName

/-!
# Sites are kept apart

Hosts share cookies only within a site, which is what the last two labels of a name are, or with
themselves if they are addresses (`isolated_of_apart`). There is one exception. A dot at the end of
a name counts where the first of at least three labels is taken off, so that of two labels and such
a dot only the second is left (`Host.cookieDomain_rooted`). All sites below it share their cookies
then, although they would not without the dot, and this is the only way in which sites come to share
them (`Host.cookieDomain_eq_iff_of_apart`).
-/

namespace CubeClient

open CubeClient.Text CubeClient.Url

/-! ## Letters of either case -/

theorem isAlpha_capital : ∀ n < 26,
    (Char.ofNat (65 + n)).isAlpha = true ∧ (lowerChar (Char.ofNat (65 + n))).isAlpha = true := by
  decide

theorem isAlpha_of_isDigit {c : Char} (h : c.isDigit = true) : c.isAlpha = false := by
  simp only [Char.isDigit, Char.isAlpha, Char.isUpper, Char.isLower, Bool.and_eq_true,
    Bool.or_eq_false_iff, Bool.and_eq_false_iff, decide_eq_true_eq, decide_eq_false_iff_not,
    ge_iff_le, UInt32.le_iff_toNat_le] at h ⊢
  have hnine : '9'.val.toNat = 57 := rfl
  have hA : 'A'.val.toNat = 65 := rfl
  have ha : 'a'.val.toNat = 97 := rfl
  omega

theorem isDigit_eq (c : Char) : c.isDigit = (decide ('0' ≤ c) && decide (c ≤ '9')) :=
  rfl

/-- What is no letter is not made of one. -/
theorem lowerChar_eq_iff {c d : Char} (hd : d.isAlpha = false) : lowerChar c = d ↔ c = d := by
  by_cases hcapital : 'A' ≤ c ∧ c ≤ 'Z'
  · have hlow : 65 ≤ c.toNat := hcapital.1
    have hhigh : c.toNat ≤ 90 := hcapital.2
    obtain ⟨n, hn⟩ := Nat.exists_eq_add_of_le hlow
    have halpha := isAlpha_capital n (by omega)
    rw [← hn, Char.ofNat_toNat] at halpha
    constructor
    · rintro rfl
      simp [halpha.2] at hd
    · rintro rfl
      simp [halpha.1] at hd
  · rw [lowerChar, if_neg hcapital]

namespace Url

/-! ## Sites -/

/-- The last two labels, or all if there are fewer. -/
def lastTwo (labels : List (List Char)) : List (List Char) :=
  labels.drop (labels.length - 2)

/-- The site of a name in small letters: its last two labels. A dot at the end begins no label. -/
def site (name : String) : List (List Char) :=
  lastTwo (labelsOf (name.toList.map lowerChar))

/-- The labels behind the first of at least three. -/
def withoutFirst (labels : List (List Char)) : List (List Char) :=
  if 3 ≤ labels.length then labels.tail else labels

/-- The labels of the domain that the cookies of a name are kept under. -/
def cookieLabels (name : String) : List (List Char) :=
  withoutFirst (splitAt '.' (name.toList.map lowerChar))

/-- The cookies of a name are kept under this label alone and a dot. -/
def IsRooted (name : String) (label : List Char) : Prop :=
  cookieLabels name = [label, []]

/-- Labels without an empty one at the end. -/
def withoutRoot (labels : List (List Char)) : List (List Char) :=
  if labels.length ≠ 1 ∧ labels.getLast? = some [] then labels.dropLast else labels

theorem labelsOf_eq (name : List Char) : labelsOf name = withoutRoot (splitAt '.' name) :=
  rfl

theorem lastTwo_cons {label : List Char} {labels : List (List Char)} (h : 2 ≤ labels.length) :
    lastTwo (label :: labels) = lastTwo labels := by
  obtain ⟨n, hn⟩ : ∃ n, labels.length = n + 2 := ⟨labels.length - 2, by omega⟩
  simp [lastTwo, hn]

/-- The first label is taken off where at least two are left. -/
theorem withoutFirst_cases (labels : List (List Char)) :
    withoutFirst labels = labels ∨
      ∃ first, labels = first :: withoutFirst labels ∧ 2 ≤ (withoutFirst labels).length := by
  unfold withoutFirst
  split
  · rename_i hlength
    cases labels with
    | nil => exact absurd hlength (by decide)
    | cons first rest => exact .inr ⟨first, rfl, by simpa using hlength⟩
  · exact .inl rfl

theorem getLast?_withoutFirst (labels : List (List Char)) :
    (withoutFirst labels).getLast? = labels.getLast? := by
  rcases withoutFirst_cases labels with h | ⟨first, h, hlength⟩
  · rw [h]
  · conv_rhs => rw [h]
    rw [List.getLast?_cons_of_ne_nil]
    intro hnil
    simp [hnil] at hlength

/-- The last two labels are behind the first of at least three, unless that leaves a single label
and a dot. -/
theorem lastTwo_withoutFirst {labels : List (List Char)}
    (h : ∀ label, withoutFirst labels ≠ [label, []]) :
    lastTwo (withoutRoot labels) = lastTwo (withoutRoot (withoutFirst labels)) := by
  rcases withoutFirst_cases labels with heq | ⟨first, heq, hlength⟩
  · rw [heq]
  · have hlast := getLast?_withoutFirst labels
    generalize withoutFirst labels = rest at *
    subst heq
    have hne : rest ≠ [] := by
      rintro rfl
      simp at hlength
    unfold withoutRoot
    rw [← hlast]
    by_cases hroot : rest.getLast? = some []
    · rw [if_pos ⟨by rw [List.length_cons]; omega, hroot⟩, if_pos ⟨by omega, hroot⟩,
        List.dropLast_cons_of_ne_nil hne]
      refine lastTwo_cons ?_
      by_contra hshort
      obtain ⟨label, last, rfl⟩ : ∃ label last, rest = [label, last] := by
        rw [List.length_dropLast] at hshort
        exact List.length_eq_two.mp (by omega)
      obtain rfl : last = [] := by simpa using hroot
      exact h label rfl
    · rw [if_neg fun hc => hroot hc.2, if_neg fun hc => hroot hc.2]
      exact lastTwo_cons hlength

/-- Two names are kept under one domain only if they are of one site, unless both are kept under the
same label and a dot. -/
theorem site_eq_of_cookieLabels_eq {name other : String}
    (h : cookieLabels name = cookieLabels other)
    (hrooted : ∀ label, ¬ (IsRooted name label ∧ IsRooted other label)) :
    site name = site other := by
  have hname : ∀ label, cookieLabels name ≠ [label, []] := fun label hn =>
    hrooted label ⟨hn, h.symm.trans hn⟩
  have hother : ∀ label, cookieLabels other ≠ [label, []] := fun label ho =>
    hname label (h.trans ho)
  calc site name
      = lastTwo (withoutRoot (cookieLabels name)) := lastTwo_withoutFirst hname
    _ = lastTwo (withoutRoot (cookieLabels other)) := by rw [h]
    _ = site other := (lastTwo_withoutFirst hother).symm

theorem mem_splitAt_of_mem_cookieLabels {name : String} {label : List Char}
    (h : label ∈ cookieLabels name) : label ∈ splitAt '.' (name.toList.map lowerChar) := by
  rcases withoutFirst_cases (splitAt '.' (name.toList.map lowerChar)) with heq | ⟨first, heq, -⟩
  · exact heq ▸ h
  · rw [heq]
    exact List.mem_cons_of_mem _ h

/-- Something of every name is left to keep its cookies under. -/
theorem cookieLabels_ne_nil (name : String) : cookieLabels name ≠ [] := by
  intro hnil
  have hlast := getLast?_withoutFirst (splitAt '.' (name.toList.map lowerChar))
  rw [← cookieLabels, hnil] at hlast
  exact splitAt_ne_nil _ _ (List.getLast?_eq_none_iff.mp hlast.symm)

/-- A name that does not end in a number is not kept under an IPv4 address. -/
theorem cookieLabels_ne_ipv4Labels {name : String} (h : endsInNumber name.toList = false)
    (address : Nat) : cookieLabels name ≠ ipv4Labels address := by
  intro heq
  -- The last label of the name is the last byte.
  obtain ⟨byte, hbyte⟩ : ∃ byte, (ipv4Labels address).getLast? = some (toString byte).toList :=
    ⟨_, rfl⟩
  have hsplit : ((splitAt '.' name.toList).map (List.map lowerChar)).getLast? =
      some (toString byte).toList := by
    rw [← splitAt_map fun c => lowerChar_eq_iff (by decide), ← hbyte, ← heq]
    exact (getLast?_withoutFirst _).symm
  rw [List.getLast?_map] at hsplit
  obtain ⟨label, hlabel, hdigits⟩ := Option.map_eq_some_iff.mp hsplit
  have hne : label ≠ [] := by
    rintro rfl
    exact toString_ne_nil byte hdigits.symm
  have hall : ∀ c ∈ label, c.isDigit = true := by
    intro c hc
    have hdigit := isDigit_of_mem_toString (hdigits ▸ List.mem_map_of_mem hc)
    rwa [← (lowerChar_eq_iff (isAlpha_of_isDigit hdigit)).mp rfl] at hdigit
  have hlabels : (labelsOf name.toList).getLast? = some label := by
    rw [labelsOf_eq, withoutRoot, hlabel, if_neg, hlabel]
    rintro ⟨-, hempty⟩
    exact hne (Option.some.inj hempty)
  have hdigits : (label.all fun c => decide ('0' ≤ c) && decide (c ≤ '9')) = true := by
    rw [List.all_eq_true]
    intro c hc
    rw [← isDigit_eq]
    exact hall c hc
  rw [endsInNumber, hlabels] at h
  simp [hne, hdigits] at h

end Url

/-! ## Domains of hosts -/

namespace Host

/-- The domain that the cookies of a host are kept under. -/
def cookieDomain : Host → String
  | .domain name => String.ofList (joinWith '.' (cookieLabels name))
  | host => host.render

/-- Two hosts that are to be kept apart: names of two sites, or an address and anything else. -/
inductive Apart : Host → Host → Prop
  | sites {name other : String} (h : site name ≠ site other) : Apart (.domain name) (.domain other)
  | address {host other : Host} (haddress : host.name? = none ∨ other.name? = none)
      (h : host ≠ other) : Apart host other

end Host

/-- The cookies of a URL are kept under the domain of its host. -/
theorem Url.cookieDomain?_eq (url : Url) :
    url.cookieDomain? = url.host?.map Host.cookieDomain := by
  unfold cookieDomain?
  congr 1
  funext host
  cases host with
  | ipv4 _ => rfl
  | ipv6 _ => rfl
  | domain name =>
    have hlower : ∀ cs : List Char,
        splitAt '.' (cs.map lowerChar) = (splitAt '.' cs).map (List.map lowerChar) :=
      splitAt_map fun c => lowerChar_eq_iff (by decide)
    have hlength := length_splitAt '.' (name.toList.map lowerChar)
    have hcount : (name.toList.map lowerChar).count '.' = name.toList.count '.' := by
      have h := congrArg List.length (hlower name.toList)
      rw [List.length_map, length_splitAt, length_splitAt] at h
      exact Nat.succ.inj h
    simp only [Host.name?, Host.cookieDomain, lower, String.toList_ofList]
    congr 1
    rw [← joinWith_splitAt '.' (List.map lowerChar _)]
    congr 1
    unfold cookieLabels withoutFirst
    split
    · rename_i hdots
      rw [if_pos (by omega), hlower, splitAt_behind (List.count_pos_iff.mp (by omega)),
        List.map_tail, ← hlower]
    · rw [if_neg (by omega)]

namespace Host

/-- A bracket tells IPv6 addresses from all other domains. -/
theorem bracket_not_mem_cookieDomain {host : Host} (h : host.WellFormed)
    (hhost : ∀ groups, host ≠ .ipv6 groups) : '[' ∉ host.cookieDomain.toList := by
  cases h with
  | domain hchars _ =>
    intro hmem
    rw [cookieDomain, String.toList_ofList] at hmem
    rcases mem_joinWith hmem with hmem | ⟨label, hlabel, hmem⟩
    · exact absurd hmem (by decide)
    · have hname := mem_of_mem_splitAt (mem_splitAt_of_mem_cookieLabels hlabel) hmem
      obtain ⟨c, hc, hbracket⟩ := List.mem_map.mp hname
      rw [(lowerChar_eq_iff (by decide)).mp hbracket] at hc
      exact absurd (hchars _ hc) (by decide)
  | ipv4 h => exact bracket_not_mem_render (.ipv4 h) hhost
  | ipv6 _ _ => exact absurd rfl (hhost _)

/-- The cookies of an address are kept under no other host. -/
theorem eq_of_cookieDomain_eq_address {host address : Host} (hhost : host.WellFormed)
    (haddress : address.WellFormed) (hname : address.name? = none)
    (h : host.cookieDomain = address.cookieDomain) : host = address := by
  cases haddress with
  | domain _ _ => cases hname
  | @ipv4 n hn =>
    have hbracket := bracket_not_mem_cookieDomain (.ipv4 hn) fun _ => Host.noConfusion
    cases hhost with
    | @domain name hchars hnumber =>
      have hjoin : joinWith '.' (cookieLabels name) = joinWith '.' (ipv4Labels n) := by
        rw [← toList_renderIpv4, ← String.toList_ofList (l := joinWith '.' (cookieLabels name))]
        exact congrArg String.toList h
      have hlabels := congrArg (splitAt '.') hjoin
      rw [splitAt_joinWith (cookieLabels_ne_nil name) fun label hlabel =>
          not_mem_of_mem_splitAt (mem_splitAt_of_mem_cookieLabels hlabel),
        ← toList_renderIpv4, splitAt_renderIpv4] at hlabels
      exact absurd hlabels (cookieLabels_ne_ipv4Labels hnumber n)
    | ipv4 hm => exact congrArg _ (renderIpv4_injective hm hn h)
    | ipv6 _ _ =>
      rw [← h] at hbracket
      exact absurd (by simp [cookieDomain, render]) hbracket
  | @ipv6 groups hlength hgroups =>
    by_cases hsix : ∃ groups', host = .ipv6 groups'
    · obtain ⟨groups', rfl⟩ := hsix
      cases hhost with
      | ipv6 hlength' hgroups' =>
        have hbody : renderIpv6 groups' = renderIpv6 groups := by
          have htext := congrArg String.toList h
          simp only [cookieDomain, render, String.toList_append] at htext
          exact String.toList_inj.mp (List.append_cancel_left (List.append_cancel_right htext))
        exact congrArg _ (renderIpv6_injective hlength' hlength hgroups' hgroups hbody)
    · have hbracket := bracket_not_mem_cookieDomain hhost fun groups' hg => hsix ⟨groups', hg⟩
      rw [h] at hbracket
      exact absurd (by simp [cookieDomain, render]) hbracket

/-- The host is a name whose cookies are kept under this label alone and a dot. -/
def IsRooted (host : Host) (label : List Char) : Prop :=
  ∃ name, host.name? = some name ∧ Url.IsRooted name label

theorem isRooted_domain {name : String} {label : List Char} :
    (domain name).IsRooted label ↔ Url.IsRooted name label := by
  constructor
  · rintro ⟨name', hname, hlabels⟩
    exact Option.some.inj hname ▸ hlabels
  · exact fun hlabels => ⟨name, rfl, hlabels⟩

/-- All names that are kept under one label and a dot share the same domain. -/
theorem cookieDomain_of_isRooted {host : Host} {label : List Char} (h : host.IsRooted label) :
    host.cookieDomain = String.ofList (label ++ ['.']) := by
  cases host with
  | domain name =>
    rw [cookieDomain, isRooted_domain.mp h]
    rfl
  | ipv4 address | ipv6 groups =>
    obtain ⟨name, hname, -⟩ := h
    cases hname

/-- Hosts that are to be kept apart share a domain exactly if both are names that are kept under the
same label and a dot. -/
theorem cookieDomain_eq_iff_of_apart {host other : Host} (h : host.WellFormed)
    (h' : other.WellFormed) (hapart : host.Apart other) :
    host.cookieDomain = other.cookieDomain ↔
      ∃ label, host.IsRooted label ∧ other.IsRooted label := by
  constructor
  · intro heq
    cases hapart with
    | @sites name name' hsite =>
      have hjoin : joinWith '.' (cookieLabels name) = joinWith '.' (cookieLabels name') :=
        String.ofList_injective heq
      have hdot : ∀ name, ∀ label ∈ cookieLabels name, '.' ∉ label := fun name label hlabel =>
        not_mem_of_mem_splitAt (mem_splitAt_of_mem_cookieLabels hlabel)
      have hlabels := joinWith_injective (cookieLabels_ne_nil name) (cookieLabels_ne_nil name')
        (hdot name) (hdot name') hjoin
      by_contra hnone
      refine hsite (site_eq_of_cookieLabels_eq hlabels ?_)
      rintro label ⟨hn, hn'⟩
      exact hnone ⟨label, isRooted_domain.mpr hn, isRooted_domain.mpr hn'⟩
    | address haddress hne =>
      rcases haddress with haddress | haddress
      · exact absurd (eq_of_cookieDomain_eq_address h' h haddress heq.symm).symm hne
      · exact absurd (eq_of_cookieDomain_eq_address h h' haddress heq) hne
  · rintro ⟨label, hhost, hother⟩
    rw [cookieDomain_of_isRooted hhost, cookieDomain_of_isRooted hother]

/-- With a dot at the end, two labels lose the first. -/
theorem isRooted_of_two {first label : List Char} (hfirst : '.' ∉ first) (hlabel : '.' ∉ label) :
    (domain (String.ofList (first ++ '.' :: label ++ ['.']))).IsRooted (label.map lowerChar) := by
  have hsplit : splitAt '.' (first ++ '.' :: label ++ ['.']) = [first, label, []] := by
    have hjoin : first ++ '.' :: label ++ ['.'] = joinWith '.' [first, label, []] := by
      simp [joinWith]
    rw [hjoin]
    refine splitAt_joinWith (List.cons_ne_nil _ _) fun piece hpiece => ?_
    simp only [List.mem_cons, List.not_mem_nil, or_false] at hpiece
    rcases hpiece with rfl | rfl | rfl
    · exact hfirst
    · exact hlabel
    · exact List.not_mem_nil
  rw [isRooted_domain, Url.IsRooted, cookieLabels, String.toList_ofList,
    splitAt_map fun c => lowerChar_eq_iff (by decide), hsplit]
  rfl

/-- So all sites below the second label share, if their names end in a dot. -/
theorem cookieDomain_rooted {first label : List Char} (hfirst : '.' ∉ first)
    (hlabel : '.' ∉ label) :
    (domain (String.ofList (first ++ '.' :: label ++ ['.']))).cookieDomain =
      String.ofList (label.map lowerChar ++ ['.']) :=
  cookieDomain_of_isRooted (isRooted_of_two hfirst hlabel)

end Host

/-! ## Isolation -/

/-- Something is stored from a URL. -/
def JarEvent.isFrom (url : Url) : JarEvent → Bool
  | .store other _ => other == url
  | .clear => false

/-- What a URL is given is not from another one. -/
structure CookieJar.Isolated (source url : Url) (events : List JarEvent) : Prop where
  /-- Each cookie is from a response that is not from there. -/
  origin : ∀ (now : Instant) (name value : String),
    (name, value) ∈ (run events).pairs url now → ∃ other headers,
      .store other headers ∈ events ∧ other ≠ source ∧
      ∃ write ∈ CookieWrite.ofResponse other headers, write.1.name = name ∧ write.2.value = value
  /-- Nothing changes when all that is stored from there is left out. -/
  unaffected : ∀ now : Instant, (run events).header? url now =
    (run (events.filter fun event => !event.isFrom source)).header? url now

namespace CookieJar

/-- What is stored from another domain can be left out of a history, after any beginning of it. -/
theorem header?_filter {source url : Url} (h : source.cookieDomain? ≠ url.cookieDomain?)
    (now : Instant) (before events : List JarEvent) :
    (run (before ++ events)).header? url now =
      (run (before ++ events.filter fun event => !event.isFrom source)).header? url now := by
  induction events generalizing before with
  | nil => rfl
  | cons event events ih =>
    by_cases hfrom : event.isFrom source = true
    · rw [List.filter_cons_of_neg (by simpa using hfrom), ← ih]
      cases event with
      | clear => cases hfrom
      | store other headers =>
        obtain rfl : other = source := by simpa [JarEvent.isFrom] using hfrom
        exact header?_elsewhere h before events headers now
    · rw [List.filter_cons_of_pos (by simpa using hfrom)]
      have hnext := ih (before ++ [event])
      rwa [List.append_assoc, List.append_assoc, List.singleton_append, List.singleton_append]
        at hnext

/-- URLs of two domains give each other nothing. -/
theorem isolated_of_cookieDomain?_ne {source url : Url}
    (h : source.cookieDomain? ≠ url.cookieDomain?) (events : List JarEvent) :
    Isolated source url events where
  unaffected now := header?_filter h now [] events
  origin now name value hpair := by
    obtain ⟨domain, cookie, hdomain, hentry, -, hvalue⟩ := mem_pairs.mp hpair
    rw [run_eq_ofWrites] at hentry
    obtain ⟨before, after, hwrites, -⟩ := mem_entries_ofWrites.mp hentry
    have hmem : ((⟨domain, name⟩, cookie) : CookieWrite) ∈ JarEvent.writes events := by
      rw [hwrites]
      simp
    obtain ⟨other, headers, hstore, hwrite⟩ := JarEvent.mem_writes hmem
    refine ⟨other, headers, hstore, ?_, _, hwrite, rfl, hvalue⟩
    rintro rfl
    exact h ((CookieWrite.domain_of_mem_ofResponse hwrite).trans hdomain.symm)

/-- Whatever is done to a jar, a site is given no cookie of another one, and an address none of any
other host, unless both hosts are names that are kept under the same label and a dot. -/
theorem isolated_of_apart {text text' : String} {source url : Url} {host other : Host}
    (hsource : Url.parse text = .ok source) (hurl : Url.parse text' = .ok url)
    (hhttp : source.scheme = "http" ∨ source.scheme = "https")
    (hhttp' : url.scheme = "http" ∨ url.scheme = "https")
    (hhost : source.host? = some host) (hother : url.host? = some other)
    (hapart : host.Apart other)
    (hrooted : ∀ label, ¬ (host.IsRooted label ∧ other.IsRooted label))
    (events : List JarEvent) : Isolated source url events := by
  have hwell : ∀ {text : String} {url : Url} {host : Host}, Url.parse text = .ok url →
      (url.scheme = "http" ∨ url.scheme = "https") → url.host? = some host →
      host.WellFormed := by
    intro text url host hparse hscheme hhost
    obtain ⟨port, hkind⟩ : ∃ port, SchemeKind.ofScheme url.scheme = .special port := by
      rcases hscheme with hscheme | hscheme <;> rw [hscheme]
      · exact ⟨80, rfl⟩
      · exact ⟨443, rfl⟩
    obtain ⟨found, hfound, hwell⟩ := Url.host?_of_parse hparse hkind
    rw [hhost] at hfound
    exact Option.some.inj hfound ▸ hwell
  refine isolated_of_cookieDomain?_ne ?_ events
  rw [Url.cookieDomain?_eq, Url.cookieDomain?_eq, hhost, hother]
  intro heq
  obtain ⟨label, hshared⟩ := (Host.cookieDomain_eq_iff_of_apart (hwell hsource hhttp hhost)
    (hwell hurl hhttp' hother) hapart).mp (Option.some.inj heq)
  exact hrooted label hshared

/-- The first page of a host. -/
def frontPage (name : String) : Url :=
  ⟨"http", some (.ofHost (some (.domain name))), .segments [""], none, none⟩

/-- Two sites of names without a dot at the end, and two of names with one. -/
theorem isolated_of_apart_organisations :
    Url.parse "http://olap.example.com/" = .ok (frontPage "olap.example.com") ∧
    Url.parse "http://olap.example.org/" = .ok (frontPage "olap.example.org") ∧
    (∀ events, Isolated (frontPage "olap.example.com") (frontPage "olap.example.org") events) ∧
    Url.parse "http://a.com./" = .ok (frontPage "a.com.") ∧
    Url.parse "http://b.org./" = .ok (frontPage "b.org.") ∧
    ∀ events, Isolated (frontPage "a.com.") (frontPage "b.org.") events := by
  have hcom : Url.parse "http://olap.example.com/" = .ok (frontPage "olap.example.com") := by
    decide +kernel
  have horg : Url.parse "http://olap.example.org/" = .ok (frontPage "olap.example.org") := by
    decide +kernel
  have hdotcom : Url.parse "http://a.com./" = .ok (frontPage "a.com.") := by decide +kernel
  have hdotorg : Url.parse "http://b.org./" = .ok (frontPage "b.org.") := by decide +kernel
  refine ⟨hcom, horg, isolated_of_apart hcom horg (.inl rfl) (.inl rfl) rfl rfl
    (.sites (by decide)) ?_, hdotcom, hdotorg, isolated_of_apart hdotcom hdotorg (.inl rfl)
    (.inl rfl) rfl rfl (.sites (by decide)) ?_⟩
  · rintro label ⟨hlabels, -⟩
    have hlast : (cookieLabels "olap.example.com").getLast? = some [] := by
      rw [Host.isRooted_domain.mp hlabels]
      rfl
    exact absurd hlast (by decide)
  · rintro label ⟨hlabels, hlabels'⟩
    have hheads := (congrArg List.head? (Host.isRooted_domain.mp hlabels)).trans
      (congrArg List.head? (Host.isRooted_domain.mp hlabels')).symm
    exact absurd hheads (by decide)

/-- Two sites that share. -/
theorem rooted_sites_share :
    Url.parse "http://a.com./" = .ok (frontPage "a.com.") ∧
    Url.parse "http://b.com./" = .ok (frontPage "b.com.") ∧
    (Host.domain "a.com.").Apart (.domain "b.com.") ∧
    (run [.store (frontPage "a.com.") ["sid=1"]]).header? (frontPage "b.com.") ⟨0, 0⟩ =
      some "sid=1" ∧
    ¬ Isolated (frontPage "a.com.") (frontPage "b.com.")
      [.store (frontPage "a.com.") ["sid=1"]] := by
  have hgiven : (run [.store (frontPage "a.com.") ["sid=1"]]).header? (frontPage "b.com.") ⟨0, 0⟩ =
      some "sid=1" := by decide +kernel
  refine ⟨by decide +kernel, by decide +kernel, .sites (by decide), hgiven, fun h => ?_⟩
  have hkept := h.unaffected ⟨0, 0⟩
  rw [hgiven] at hkept
  revert hkept
  decide +kernel

end CookieJar

end CubeClient
