import CubeClient.Metadata.Collection
import CubeClient.Proofs.Deferred.Accounts
import CubeClient.Proofs.Deferred.Rest
import CubeClient.Proofs.Envelope.Responses

/-!
# Requests of a collection

For a collection that is filled by a Discover request, `Accounted` says how many requests it sends,
who answers which error, and what has become of every attempt. It holds for any handler of the rows,
whatever the other collections are and however the readers take turns. That its reads do come to an
end, the waiters behind a failed attempt among them, is `Settles`.
-/

namespace CubeClient

/-- The message of a Discover request. -/
def Client.discoverMessage (client : Client) (request : RequestType) (catalog : Option String)
    (restrictions : Restrictions) : Message :=
  ⟨.discover, Envelope.discoverRequest request restrictions (client.discoverProperties catalog)⟩

/-- A request whose restrictions are allowed is a message. -/
theorem Client.discover_of_valid {request : RequestType} {restrictions : Restrictions}
    (h : request.validate restrictions = .ok ()) (client : Client) (catalog : Option String) :
    client.discover request catalog restrictions =
      .message (client.discoverMessage request catalog restrictions) fun reply =>
        (readPayload reply).map (rowsOf request) := by
  unfold discover
  rw [h]
  rfl

theorem Client.discover_of_invalid {request : RequestType} {restrictions : Restrictions}
    {error : ClientError} (h : request.validate restrictions = .error error) (client : Client)
    (catalog : Option String) : client.discover request catalog restrictions = .refused error := by
  unfold discover
  rw [h]

/-- The reply with some rows. -/
def rowsReply (rows : List (List (String × String))) : Reply :=
  .ok (Text.Utf8.encode (Envelope.rowset rows))

/-- The reply with one row. -/
def rowReply (fields : List (String × String)) : Reply :=
  .ok (Text.Utf8.encode (Envelope.rowset [fields]))

/-- A reply with plain rows is read as these rows. -/
theorem rowsOf_rowsReply {rows : List (List (String × String))} (h : Envelope.PlainRows rows) :
    ∃ root, Client.readPayload (rowsReply rows) = .ok root ∧
      ∀ request, Client.rowsOf request root = rows.map Envelope.rowElement := by
  refine ⟨_, Envelope.parseResponse_rowset h, fun request => ?_⟩
  rw [Client.rowsOf, Envelope.elements_rowsetRoot, List.filter_eq_self]
  intro row hrow
  obtain ⟨fields, -, rfl⟩ := List.mem_map.mp hrow
  cases request <;> rfl

theorem rowsOf_rowReply {fields : List (String × String)} (h : Envelope.PlainRows [fields]) :
    ∃ root, Client.readPayload (rowReply fields) = .ok root ∧
      ∀ request, Client.rowsOf request root = [Envelope.rowElement fields] :=
  rowsOf_rowsReply h

end CubeClient

namespace CubeClient.Deferred

namespace Config

variable {κ ι : Type} [Named ι] [DecidableEq κ] {family : Family κ ι} {c : Config κ ι}
  {i a : Nat} {key : κ} {r : Reader κ ι} {message : Message} {handler : RowHandler κ ι}

/-- A handler that sends nothing but what is in `sends`. -/
abbrev Sends (handler : RowHandler κ ι) (sends : Message → Prop) : Prop :=
  ∀ row list, (handler row list).Confined sends fun _ => True

/-! ## The log of the messages -/

/-- If the handler sends nothing, there is one message in the log for each attempt that has sent its
request, and no other one of the collection. -/
theorem Asked.countP_sent (h : Asked family key message (fun _ => False) c) (hc : Coherent c) :
    c.sent.countP (fun s => decide (c.attempts[s.attempt]? = some key)) = c.requestsOf key := by
  let own : Sent → Bool := fun s => decide (c.attempts[s.attempt]? = some key)
  have hmem : ∀ {a : Nat}, a ∈ (c.sent.filter own).map (·.attempt) ↔
      a ∈ (c.attemptsOf key).filter fun a => !(c.messagesOf a).isEmpty := by
    intro a
    rw [List.mem_map, List.mem_filter, mem_attemptsOf]
    constructor
    · rintro ⟨s, hs, rfl⟩
      obtain ⟨hs, hown⟩ := List.mem_filter.mp hs
      refine ⟨of_decide_eq_true hown, ?_⟩
      have hsent : s.message ∈ c.messagesOf s.attempt :=
        List.mem_map.mpr ⟨s, List.mem_filter.mpr ⟨hs, beq_self_eq_true _⟩, rfl⟩
      simp [List.ne_nil_of_mem hsent]
    · rintro ⟨ha, hsome⟩
      obtain ⟨m, hm⟩ := List.exists_mem_of_ne_nil (c.messagesOf a) (by simpa using hsome)
      exact ⟨⟨a, m⟩, List.mem_filter.mpr ⟨mem_of_mem_messagesOf hm, decide_eq_true ha⟩, rfl⟩
  have hnodup : ((c.sent.filter own).map (·.attempt)).Nodup := by
    rw [List.nodup_iff_count_le_one]
    intro a
    by_cases ha : a ∈ (c.sent.filter own).map (·.attempt)
    · have hlog : ((c.sent.filter own).map (·.attempt)).count a ≤ (c.messagesOf a).length := by
        rw [messagesOf, List.length_map, List.count_eq_countP, List.countP_map,
          ← List.countP_eq_length_filter]
        exact List.Sublist.countP_le List.filter_sublist
      have hattempt := mem_attemptsOf.mp (List.mem_filter.mp (hmem.mp ha)).1
      rcases h.messagesOf_cases hc hattempt with hnone | ⟨rest, hasked, hrest⟩
      · rw [hnone] at hlog
        exact Nat.le_trans hlog (Nat.zero_le 1)
      · have hnil : rest = [] := List.eq_nil_iff_forall_not_mem.mpr hrest
        rw [hasked, hnil] at hlog
        exact hlog
    · rw [List.count_eq_zero_of_not_mem ha]
      exact Nat.zero_le 1
  have hperm := (List.perm_ext_iff_of_nodup hnodup
    ((nodup_attemptsOf c key).filter _)).mpr fun a => hmem
  rw [requestsOf, List.countP_eq_length_filter, List.countP_eq_length_filter, ← hperm.length_eq,
    List.length_map]

/-- When all reads have answered, every attempt has sent its request. -/
theorem Asked.requestsOf_eq {sends : Message → Prop} (h : Asked family key message sends c)
    (hanswered : Answered c) (hc : Coherent c) (hall : c.AllAnswered key) :
    c.requestsOf key = (c.attemptsOf key).length := by
  rw [requestsOf, List.countP_eq_length]
  intro a ha
  obtain ⟨i, r, hr, hkey, hown⟩ := hc.guarded.runner.mp (mem_attemptsOf.mp ha)
  obtain ⟨result, hp⟩ := hanswered.finished hall hr hkey hown
  rcases h.sent hr hkey hown with ⟨-, hworking | hdropped⟩ | ⟨rest, hasked, -, -⟩
  · rw [hp] at hworking
    cases hworking
  · rw [hp] at hdropped
    cases hdropped
  · rw [hasked]
    rfl

/-! ## Requests, errors and lists -/

/-- The account of a collection that is filled by sending `message` first and by `handler` after
that. -/
structure Accounted (family : Family κ ι) (handler : RowHandler κ ι) (key : κ) (message : Message)
    (c : Config κ ι) : Prop where
  /-- What has become of the attempts. -/
  started : (c.attemptsOf key).length = c.countOf key Phase.hasFailed +
    c.countOf key Phase.wasCut + (c.cells key).state.filled + (c.cells key).state.underWay
  /-- An attempt sends the request at most once. -/
  asked : ∀ a ∈ c.attemptsOf key, ∀ sends, Sends handler sends →
    c.messagesOf a = [] ∨ ∃ rest, c.messagesOf a = message :: rest ∧ ∀ m ∈ rest, sends m
  /-- It has not sent it yet only if it has just been begun, or was cut short there. -/
  unasked : ∀ (i : Nat) (r : Reader κ ι) (a : Nat), c.readers[i]? = some r → r.key = key →
    r.phase.own? = some a → c.messagesOf a = [] →
    r.phase = .working a (family.program key) ∨ r.phase = .abandoned (some a)
  /-- Once sent it stays sent, and is not sent again, whatever becomes of the reader. -/
  kept : ∀ (later : List (Event κ)), ∀ a ∈ c.attemptsOf key, c.messagesOf a ≠ [] →
    ∀ sends, Sends handler sends →
    ∃ rest, (later.foldl (step family) c).messagesOf a = message :: rest ∧ ∀ m ∈ rest, sends m
  /-- If the handler sends nothing, these are all messages of the collection. -/
  logged : Sends handler (fun _ => False) →
    c.sent.countP (fun s => decide (c.attempts[s.attempt]? = some key)) = c.requestsOf key
  /-- Once the collection is filled, a read that goes on has answered the list two turns later. -/
  served : ∀ (listing : Listing ι) (i : Nat) (r : Reader κ ι),
    (c.cells key).state = .populated listing → c.readers[i]? = some r → r.key = key →
    r.phase.isOver = false → ∀ later : List (Event κ), 2 ≤ turns i later →
    ∃ s, (later.foldl (step family) c).readers[i]? = some s ∧
      (s.phase = .finished none (.ok listing) ∨ ∃ own, s.phase = .abandoned own)
  shared : c.AllAnswered key → Shared c key

/-- The account holds of every collection that asks by a message, whatever its handler sends
later. -/
theorem accounted_of_asks {events : List (Event κ)}
    (hasks : ∀ sends, Sends handler sends → family.Asks key message sends) :
    Accounted family handler key message (run family events) := by
  have hc := Coherent.run family events
  have hanswered := Answered.run family events
  have hall : Sends handler fun _ => True := fun row list => .all (handler row list)
  have hasked := Asked.run (hasks _ hall) events
  refine ⟨hanswered.length_attemptsOf hc key, ?_, ?_, ?_, ?_, ?_, ?_⟩
  · intro a ha sends hsends
    exact (Asked.run (hasks sends hsends) events).messagesOf_cases hc (mem_attemptsOf.mp ha)
  · intro i r a hr hkey hown hnone
    rcases hasked.sent hr hkey hown with ⟨-, hphase⟩ | ⟨rest, hsome, -, -⟩
    · exact hphase
    · rw [hnone] at hsome
      cases hsome
  · intro later a ha hsome sends hsends
    have hrun : later.foldl (step family) (run family events) = run family (events ++ later) := by
      rw [run, run, List.foldl_append]
    have hattempt := attempt_foldl family later (mem_attemptsOf.mp ha)
    have hprefix := messagesOf_foldl family (run family events) later a
    rw [hrun] at hattempt hprefix ⊢
    rcases (Asked.run (hasks sends hsends) (events ++ later)).messagesOf_cases
      (Coherent.run family _) hattempt with hnone | hrest
    · rw [hnone] at hprefix
      exact absurd (List.prefix_nil.mp hprefix) hsome
    · exact hrest
  · intro hsilent
    exact (Asked.run (hasks _ hsilent) events).countP_sent hc
  · intro listing i r hs hr hkey hlive later hturns
    exact hc.answered hs hr hkey hlive hturns
  · intro hall
    exact hanswered.shared hc hall (hasked.requestsOf_eq hanswered hc hall)

/-! ## All reads answer in the end -/

/-- Reads of a collection come to an end, if replies come and nothing new does. -/
structure Settles (family : Family κ ι) (key : κ) (c : Config κ ι) : Prop where
  /-- When nothing can happen any more, a read that has not ended is held up by an attempt on the
  collection, and this attempt by a read that it has issued itself. -/
  held : Resting family c → ∀ (i : Nat) (r : Reader κ ι), c.readers[i]? = some r → r.key = key →
    r.phase.isOver = false → ∃ j a k, c.Populates j key a ∧ WaitsFor c j k
  /-- Where collections are filled from lower ones only, all reads have answered by then, unless
  some were given up. -/
  answered : ∀ rank, family.RankedBy rank → Resting family c → NoneGivenUp c key →
    c.AllAnswered key
  /-- And there things do not happen for ever. -/
  rests : ∀ rank, family.RankedBy rank → ∀ configs : Nat → Config κ ι, configs 0 = c →
    ¬ ∀ n, Goes family (configs n) (configs (n + 1))

/-- Reads of any collection come to an end, since none can miss the end of an attempt. -/
theorem settles (family : Family κ ι) (events : List (Event κ)) (key : κ) :
    Settles family key (run family events) where
  held hrest _ _ hr hkey hlive := hkey ▸ hrest.held hr hlive
  answered _ hfamily hrest hkept := hkept.allAnswered fun hr => hrest.isOver hfamily hr
  rests _ hfamily _ hfirst hgoes := not_goes_forever hfamily hfirst hgoes

/-- Requests of a collection that is filled by a valid Discover request, that its reads come to an
end, and whose errors are whose: a reader that made an attempt answers what the program of this
attempt ended with. -/
theorem discover_accounted {client : Client} {request : RequestType} {catalog : Option String}
    {restrictions : Restrictions} {label : String}
    (hvalid : request.validate restrictions = .ok ())
    (hprogram : family.program key =
      populate label handler (client.discover request catalog restrictions))
    (events : List (Event κ)) :
    Accounted family handler key (client.discoverMessage request catalog restrictions)
        (run family events) ∧
      Settles family key (run family events) ∧
      ∀ (i : Nat) (r : Reader κ ι) (a : Nat) (result : ReadResult ι),
        (run family events).readers[i]? = some r → r.phase = .finished (some a) result →
        ∃ before outcome q, before <+: events ∧ (run family before).readers[i]? = some q ∧
          q.phase = .working a (.done outcome) ∧
          result = outcome.map fun items => ⟨a, items⟩ := by
  rw [Client.discover_of_valid hvalid] at hprogram
  refine ⟨accounted_of_asks fun sends hsends => asks_populate hsends hprogram,
    settles family events key, ?_⟩
  intro i r a result hr hp
  exact answered_own family hr hp

end Config

/-- The catalogs of a server at hand. -/
def localCatalogs : Collection where
  scope :=
    { client :=
        { server :=
            { url :=
                { scheme := "http", authority := some (.ofHost (some (.domain "localhost")))
                  path := .segments [], query := none, fragment := none }
              user := none, password := none }
          session := {} }
      place := ⟨0, []⟩, context := {} }
  kind := .catalogs

/-- The catalogs are read three times. The first reader gets no reply, one of the two that have
waited for it tries again and gets one, and the other one waits for that. -/
def catalogsAsked (reply : Reply) : List (Event TreeKey) :=
  [.start (.listed localCatalogs), .start (.listed localCatalogs), .start (.listed localCatalogs),
    .advance 0, .advance 1, .advance 2, .advance 0, .deliver 0 (.error .exchange),
    .advance 0, .advance 0, .advance 1, .advance 1, .advance 2, .advance 2, .advance 1,
    .deliver 1 reply]

/-- Where these reads lead to, if the server lists one catalog. -/
def catalogsShared : Config TreeKey MetadataObject :=
  Config.run TreeKey.family (catalogsAsked (rowReply [("CATALOG_NAME", "FoodMart")]) ++
    [.advance 1, .advance 1, .advance 2, .advance 2])

/-- The reader goes on with what its reply says, whatever that is. -/
theorem run_catalogsAsked (reply : Reply) :
    Config.run TreeKey.family (catalogsAsked reply ++ [.advance 1]) =
      (Config.run TreeKey.family (catalogsAsked reply)).setPhase 1 (.working 1
        (match (Client.readPayload reply).map (Client.rowsOf .catalogs) with
        | .error error => .done (.error error)
        | .ok rows => fillFrom localCatalogs.label localCatalogs.handler rows .empty)) :=
  rfl

/-- What is read from the reply is known, so nothing has to be parsed to say where the reads end. -/
theorem catalogsShared_eq : catalogsShared =
    [.advance 1, .advance 2, .advance 2].foldl (Config.step TreeKey.family)
      ((Config.run TreeKey.family
          (catalogsAsked (rowReply [("CATALOG_NAME", "FoodMart")]))).setPhase 1
        (.working 1 (fillFrom localCatalogs.label localCatalogs.handler
          [Envelope.rowElement [("CATALOG_NAME", "FoodMart")]] .empty))) := by
  have hplain : Envelope.PlainRows [[("CATALOG_NAME", "FoodMart")]] := by
    unfold Envelope.PlainRows
    decide
  obtain ⟨root, hread, hrows⟩ := rowsOf_rowReply hplain
  have hlater : catalogsShared = [.advance 1, .advance 2, .advance 2].foldl
      (Config.step TreeKey.family) (Config.run TreeKey.family
        (catalogsAsked (rowReply [("CATALOG_NAME", "FoodMart")]) ++ [.advance 1])) := rfl
  rw [hlater, run_catalogsAsked, hread, Except.map, hrows]

/-- Three reads of the catalogs share two requests: the first reader answers the error of the first
one, the others the list that the second one has led to. -/
theorem discover_accounted_catalogs :
    RequestType.catalogs.validate .empty = .ok () ∧
    TreeKey.family.program (.listed localCatalogs) = populate localCatalogs.label
      localCatalogs.handler (localCatalogs.scope.client.discover .catalogs none .empty) ∧
    Config.Accounted TreeKey.family localCatalogs.handler (.listed localCatalogs)
      (localCatalogs.scope.client.discoverMessage .catalogs none .empty) catalogsShared ∧
    TreeKey.family.RankedBy TreeKey.rank ∧ Config.Resting TreeKey.family catalogsShared ∧
    Config.NoneGivenUp catalogsShared (.listed localCatalogs) ∧
    Config.Shared catalogsShared (.listed localCatalogs) ∧
    catalogsShared.readers.map (·.phase.own?) = [some 0, some 1, none] ∧
    catalogsShared.requestsOf (.listed localCatalogs) = 2 ∧
    catalogsShared.readsOf (.listed localCatalogs) = 3 := by
  have hvalid : RequestType.catalogs.validate .empty = .ok () := by decide
  have hprogram : TreeKey.family.program (.listed localCatalogs) = populate localCatalogs.label
      localCatalogs.handler (localCatalogs.scope.client.discover .catalogs none .empty) := rfl
  obtain ⟨haccount, hsettles, -⟩ := Config.discover_accounted hvalid hprogram
    (catalogsAsked (rowReply [("CATALOG_NAME", "FoodMart")]) ++
      [.advance 1, .advance 1, .advance 2, .advance 2])
  have hrest : Config.Resting TreeKey.family catalogsShared := by
    rw [catalogsShared_eq]
    decide +kernel
  have hanswers : catalogsShared.readers.all (·.phase.result?.isSome) = true := by
    rw [catalogsShared_eq]
    decide +kernel
  have hkept : Config.NoneGivenUp catalogsShared (.listed localCatalogs) := by
    intro i r hr _ _ own hgone
    have hsome := List.all_eq_true.mp hanswers r (List.mem_of_getElem? hr)
    rw [hgone] at hsome
    cases hsome
  have hall := hsettles.answered TreeKey.rank TreeKey.rankedBy_rank hrest hkept
  refine ⟨hvalid, hprogram, haccount, TreeKey.rankedBy_rank, hrest, hkept,
    haccount.shared hall, ?_⟩
  rw [catalogsShared_eq]
  decide +kernel

end CubeClient.Deferred
