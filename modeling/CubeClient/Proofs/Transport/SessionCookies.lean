import CubeClient.Proofs.Cookie.Reading
import CubeClient.Transport.Http

/-!
# The cookies of a session

A session is followed through a list of exchanges, in each of which the network may do what it likes
with the request: answer it with any status, headers and body, or not answer it. What the session
has learnt from them is the list of responses that have arrived (`HttpSession.heard`), and its jar
is the one that their readable `Set-Cookie` headers lead to (`jar_run`). So the request of the next
exchange carries what this jar has for it (`requests_carry_cookies`).

It can always be sent. A header is read only if it is made of visible characters, a jar takes names
and values out of the headers, and what a request carries is these and punctuation
(`visible_of_header?`).
-/

namespace CubeClient

open CubeClient.Text

/-! ## Characters of headers -/

namespace HttpResponse

/-- What headers are made of that are read. -/
def Visible (c : Char) : Prop :=
  c = '\t' ∨ (' ' ≤ c ∧ c ≤ '~')

theorem isReadable_iff {header : String} :
    isReadable header = true ↔ ∀ c ∈ header.toList, Visible c := by
  simp [isReadable, Visible, List.all_eq_true]

end HttpResponse

open HttpResponse (Visible)

theorem HttpSession.isHeaderText_of_visible {text : String} (h : ∀ c ∈ text.toList, Visible c) :
    isHeaderText text = true := by
  rw [isHeaderText, List.all_eq_true]
  intro c hc
  rcases h c hc with rfl | ⟨hlow, hhigh⟩
  · rfl
  · have hdelete : c ≠ '\x7f' := by
      rintro rfl
      exact absurd hhigh (by decide)
    simp [hlow, hdelete]

theorem Text.exists_of_mem_intercalate {separator : List Char} {pieces : List (List Char)}
    {c : Char} (h : c ∈ separator.intercalate pieces) :
    c ∈ separator ∨ ∃ piece ∈ pieces, c ∈ piece := by
  induction pieces with
  | nil => cases h
  | cons piece pieces ih =>
    cases pieces with
    | nil => exact .inr ⟨piece, List.mem_cons_self, by simpa [List.intercalate] using h⟩
    | cons second pieces =>
      have hmem : c ∈ piece ∨ c ∈ separator ∨ c ∈ separator.intercalate (second :: pieces) := by
        simpa [List.intercalate] using h
      rcases hmem with hc | hc | hc
      · exact .inr ⟨piece, List.mem_cons_self, hc⟩
      · exact .inl hc
      · refine (ih hc).imp_right ?_
        rintro ⟨piece', hpiece, hc⟩
        exact ⟨piece', List.mem_cons_of_mem _ hpiece, hc⟩

/-- A jar that has been filled from readable headers holds visible names and values. -/
theorem CookieJar.visible_of_mem_pairs {events : List JarEvent}
    (hread : ∀ url headers, .store url headers ∈ events → ∀ header ∈ headers,
      HttpResponse.isReadable header = true) {url : Url} {now : Instant} {name value : String}
    (h : (name, value) ∈ (run events).pairs url now) :
    ∀ c, c ∈ name.toList ∨ c ∈ value.toList → Visible c := by
  obtain ⟨domain, cookie, -, hentry, -, rfl⟩ := mem_pairs.mp h
  obtain ⟨source, headers, header, hstore, hheader, hset⟩ := exists_of_mem_entries hentry
  exact fun c hc => HttpResponse.isReadable_iff.mp (hread source headers hstore header hheader) c
    (SetCookie.mem_of_read? hset hc)

/-- What a request carries from such a jar can stand in a header. -/
theorem CookieJar.visible_of_header? {events : List JarEvent}
    (hread : ∀ url headers, .store url headers ∈ events → ∀ header ∈ headers,
      HttpResponse.isReadable header = true) {url : Url} {now : Instant} {text : String}
    (h : (run events).header? url now = some text) : ∀ c ∈ text.toList, Visible c := by
  rw [header?_eq] at h
  split at h
  · cases h
  · cases h
    intro c hc
    rw [String.toList_intercalate] at hc
    rcases exists_of_mem_intercalate hc with hc | ⟨piece, hpiece, hc⟩
    · have hpunctuation : ∀ c ∈ "; ".toList, Visible c := HttpResponse.isReadable_iff.mp rfl
      exact hpunctuation c hc
    · simp only [List.map_map, List.mem_map, Function.comp_apply] at hpiece
      obtain ⟨⟨name, value⟩, hpair, rfl⟩ := hpiece
      rw [String.toList_append, String.toList_append, List.mem_append, List.mem_append] at hc
      rcases hc with (hc | hc) | hc
      · exact visible_of_mem_pairs hread hpair c (.inl hc)
      · have hequals : ∀ c ∈ "=".toList, Visible c := HttpResponse.isReadable_iff.mp rfl
        exact hequals c hc
      · exact visible_of_mem_pairs hread hpair c (.inr hc)

/-! ## What a session hears -/

/-- An exchange: with whom and when, what is said, and what the network makes of a request. -/
structure HttpExchange where
  server : ServerInfo
  now : Instant
  message : Message
  network : HttpRequest → HttpOutcome

namespace HttpSession

/-- The request of an exchange. -/
def requestOf (s : HttpSession) (x : HttpExchange) : HttpRequest :=
  s.request x.server x.now x.message

/-- The request that goes out, if it can be written. -/
def sent? (s : HttpSession) (x : HttpExchange) : Option HttpRequest :=
  if (s.requestOf x).cookie.all isHeaderText then some (s.requestOf x) else none

/-- The session after an exchange. -/
def after (s : HttpSession) (x : HttpExchange) : HttpSession :=
  (s.exchange x.server x.now x.message x.network).2

/-- The session after exchanges. -/
def run (s : HttpSession) (exchanges : List HttpExchange) : HttpSession :=
  exchanges.foldl after s

/-- The response that arrives in an exchange, of whatever status and however much of its body, with
the server that it is from. -/
def response? (s : HttpSession) (x : HttpExchange) : Option (ServerInfo × HttpResponse) :=
  match (s.sent? x).map x.network with
  | some (.answered response) => some (x.server, response)
  | _ => none

/-- The responses that arrive in exchanges, one after the other. -/
def heard : HttpSession → List HttpExchange → List (ServerInfo × HttpResponse)
  | _, [] => []
  | s, x :: exchanges => (s.response? x).toList ++ (s.after x).heard exchanges

/-- What a response does to a jar: the headers that can be read are stored. -/
def stored (response : ServerInfo × HttpResponse) : JarEvent :=
  .store response.1.url (response.2.setCookies.filter HttpResponse.isReadable)

/-- What is sent decides what is exchanged, and what cannot be sent changes nothing. -/
theorem exchange_eq (s : HttpSession) (x : HttpExchange) :
    s.exchange x.server x.now x.message x.network =
      match s.sent? x with
      | some request => s.receive x.server (x.network request)
      | none => (.error .exchange, s) := by
  unfold exchange sent? requestOf
  by_cases h : (s.request x.server x.now x.message).cookie.all isHeaderText = true
  · simp only [h, if_true]
  · simp only [h, Bool.false_eq_true, if_false]

/-- A session keeps the cookies of the response that arrives, and else stays as it is. -/
theorem after_eq (s : HttpSession) (x : HttpExchange) :
    s.after x = match s.response? x with
      | some response => s.keepCookies response.1 response.2
      | none => s := by
  rw [after, exchange_eq, response?]
  cases s.sent? x with
  | none => rfl
  | some request =>
    rw [Option.map_some]
    cases hnetwork : x.network request <;> simp only [receive, hnetwork]

/-- An exchange stores the response that was heard, if there was one. -/
theorem jar_after (s : HttpSession) (x : HttpExchange) :
    (s.after x).jar =
      s.jar.map fun jar => ((s.response? x).toList.map stored).foldl JarEvent.apply jar := by
  rw [after_eq]
  cases s.response? x with
  | none => simp
  | some response => rfl

/-- The jar of a session is that of the responses it has heard. -/
theorem jar_run (s : HttpSession) (exchanges : List HttpExchange) :
    (s.run exchanges).jar =
      s.jar.map fun jar => ((s.heard exchanges).map stored).foldl JarEvent.apply jar := by
  induction exchanges generalizing s with
  | nil => simp [run, heard]
  | cons x exchanges ih =>
    have hrun : s.run (x :: exchanges) = (s.after x).run exchanges := rfl
    rw [hrun, ih, jar_after, heard, Option.map_map, List.map_append]
    simp only [Function.comp_def, List.foldl_append]

/-- The jar of a session is that of all responses heard, if it keeps cookies at all. -/
theorem jar_run_ofSettings (settings : Settings) (exchanges : List HttpExchange) :
    ((ofSettings settings).run exchanges).jar =
      if settings.session.cookies then
        some (CookieJar.run (((ofSettings settings).heard exchanges).map stored))
      else none := by
  rw [jar_run, ofSettings]
  cases settings.session.cookies <;> rfl

/-- Only headers that can be read are stored. -/
theorem readable_of_stored {responses : List (ServerInfo × HttpResponse)} {url : Url}
    {headers : List String} (h : .store url headers ∈ responses.map stored) {header : String}
    (hheader : header ∈ headers) : HttpResponse.isReadable header = true := by
  obtain ⟨response, -, heq⟩ := List.mem_map.mp h
  cases heq
  exact (List.mem_filter.mp hheader).2

end HttpSession

/-! ## What a request carries -/

/-- A request is given a header exactly if a cookie that was set last is for it. -/
theorem CookieJar.isSome_header?_run {events : List JarEvent} {url : Url} {now : Instant} :
    ((run events).header? url now).isSome ↔
      ∃ domain name cookie, url.cookieDomain? = some domain ∧
        IsLastWrite (JarEvent.writes events) ⟨domain, name⟩ cookie ∧
        cookie.IsFor url.pathText now := by
  have hpairs : ((run events).header? url now).isSome ↔
      ∃ name value, (name, value) ∈ (run events).pairs url now := by
    rw [header?_eq]
    cases (run events).pairs url now with
    | nil => simp
    | cons pair pairs =>
      simp only [reduceCtorEq, if_false, Option.isSome_some, true_iff]
      exact ⟨pair.1, pair.2, List.mem_cons_self⟩
  rw [hpairs, run_eq_ofWrites]
  simp only [mem_pairs, mem_entries_ofWrites]
  constructor
  · rintro ⟨name, value, domain, cookie, hdomain, hlast, hfor, -⟩
    exact ⟨domain, name, cookie, hdomain, hlast, hfor⟩
  · rintro ⟨domain, name, cookie, hdomain, hlast, hfor⟩
    exact ⟨name, cookie.value, domain, cookie, hdomain, hlast, hfor, rfl⟩

/-- What holds of an exchange of a session, where `history` is what earlier responses have done to
the jar, if it keeps cookies. -/
structure CarriesCookies (keeps : Bool) (history : List JarEvent) (s : HttpSession)
    (x : HttpExchange) : Prop where
  /-- What the request carries can stand in a header. -/
  writable : ∀ header, (s.requestOf x).cookie = some header →
    HttpSession.isHeaderText header = true
  /-- So the request goes out, and the network decides what comes of it. -/
  sent : s.exchange x.server x.now x.message x.network =
    s.receive x.server (x.network (s.requestOf x))
  /-- It carries the header of the jar. -/
  carried : keeps = true →
    (s.requestOf x).cookie = (CookieJar.run history).header? x.server.url x.now
  /-- That is, it carries one exactly if a cookie that was set last is for it. -/
  carries_iff : keeps = true → ((s.requestOf x).cookie.isSome ↔
    ∃ domain name cookie, x.server.url.cookieDomain? = some domain ∧
      IsLastWrite (JarEvent.writes history) ⟨domain, name⟩ cookie ∧
      cookie.IsFor x.server.url.pathText x.now)
  /-- Without a jar it carries none. -/
  bare : keeps = false → (s.requestOf x).cookie = none
  /-- If no response arrives, the session stays as it is. -/
  unheard : (∀ response, x.network (s.requestOf x) ≠ .answered response) → s.after x = s

/-- After any exchanges a session carries the cookies of all responses that have arrived in them, of
whatever status they were and whether or not their bodies broke off, and every request goes out. -/
theorem requests_carry_cookies (settings : Settings) (earlier : List HttpExchange)
    (x : HttpExchange) :
    CarriesCookies settings.session.cookies
      (((HttpSession.ofSettings settings).heard earlier).map HttpSession.stored)
      ((HttpSession.ofSettings settings).run earlier) x := by
  generalize hhistory :
    ((HttpSession.ofSettings settings).heard earlier).map HttpSession.stored = history
  have hjar := HttpSession.jar_run_ofSettings settings earlier
  rw [hhistory] at hjar
  generalize (HttpSession.ofSettings settings).run earlier = s at hjar
  have hcookie : (s.requestOf x).cookie = s.jar.bind (·.header? x.server.url x.now) := rfl
  have hcarried : settings.session.cookies = true →
      (s.requestOf x).cookie = (CookieJar.run history).header? x.server.url x.now := by
    intro hkeeps
    rw [hcookie, hjar, if_pos hkeeps, Option.bind_some]
  have hbare : settings.session.cookies = false → (s.requestOf x).cookie = none := by
    intro hkeeps
    rw [hcookie, hjar, hkeeps]
    rfl
  have hwritable : ∀ header, (s.requestOf x).cookie = some header →
      HttpSession.isHeaderText header = true := by
    intro header hheader
    cases hkeeps : settings.session.cookies with
    | false =>
      rw [hbare hkeeps] at hheader
      cases hheader
    | true =>
      rw [hcarried hkeeps] at hheader
      refine HttpSession.isHeaderText_of_visible (CookieJar.visible_of_header? ?_ hheader)
      intro url headers hstore header hmem
      exact HttpSession.readable_of_stored (hhistory ▸ hstore) hmem
  have hsent : s.sent? x = some (s.requestOf x) := by
    rw [HttpSession.sent?, if_pos]
    rw [Option.all_eq_true]
    exact hwritable
  refine ⟨hwritable, ?_, hcarried, fun hkeeps => ?_, hbare, fun hnone => ?_⟩
  · rw [HttpSession.exchange_eq, hsent]
  · rw [hcarried hkeeps, CookieJar.isSome_header?_run]
  · rw [HttpSession.after_eq, HttpSession.response?, hsent, Option.map_some]
    cases hnetwork : x.network (s.requestOf x) with
    | answered response => exact absurd hnetwork (hnone response)
    | unanswered => rfl
    | stalled => rfl

end CubeClient
