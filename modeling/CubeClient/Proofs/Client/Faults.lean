import CubeClient.Proofs.Deferred.Answers
import CubeClient.Proofs.Deferred.Discover
import CubeClient.Proofs.Deferred.Replies
import CubeClient.Proofs.Envelope.Responses

/-!
# Faults surface

What a server reports in place of a payload becomes the error of the call that hears it, and of the
read whose collection the call was to fill. So whoever answers a list, and be it an empty one, has
had a reply that carries neither a fault nor an exception.
-/

namespace CubeClient

open CubeClient.Deferred CubeClient.Envelope CubeClient.Text CubeClient.Xml

/-! ## Calls -/

/-- A call sends a message and selects from the payload of the reply; every error is its own. -/
def Call.Selects {α : Type} (call : Call α) (message : Message) (select : Element → α) : Prop :=
  ∃ read, call = .message message read ∧ (∀ error, read (.error error) = .error error) ∧
    ∀ bytes, read (.ok bytes) = (parseResponse bytes).map select

namespace Client

theorem readPayload_ok (bytes : Bytes) : readPayload (.ok bytes) = parseResponse bytes :=
  rfl

theorem rowsOf_eq (request : RequestType) :
    rowsOf request = fun root => root.elements.filter (·.name == "row") := by
  cases request <;> rfl

/-- A valid Discover request is one message, and its reply is selected from as a response. -/
theorem discover_selects {request : RequestType} {restrictions : Restrictions}
    (h : request.validate restrictions = .ok ()) (client : Client) (catalog : Option String) :
    (client.discover request catalog restrictions).Selects
      (client.discoverMessage request catalog restrictions)
      fun root => root.elements.filter (·.name == "row") := by
  refine ⟨_, discover_of_valid h client catalog, fun _ => rfl, fun bytes => ?_⟩
  rw [rowsOf_eq]
  rfl

/-- Execute is one message, and its reply is the payload as it is. -/
theorem execute_selects (client : Client) (statement : String) :
    (client.execute statement).Selects
      ⟨.execute, executeRequest statement
        (Properties.execute client.session.catalog client.session.dataSourceInfo)⟩ id := by
  refine ⟨_, rfl, fun _ => rfl, fun bytes => ?_⟩
  show parseResponse bytes = (parseResponse bytes).map id
  cases parseResponse bytes <;> rfl

end Client

/-! ## Populations -/

namespace Deferred.Config

variable {κ ι : Type} [Named ι] {family : Family κ ι} {key : κ} {message : Message}
  {handler : RowHandler κ ι}

theorem populate_message (label : String) (handler : RowHandler κ ι) (message : Message)
    (read : Reply → Except ClientError (List Element)) :
    populate label handler (.message message read) = .send message fun reply =>
      match read reply with
      | .error error => .done (.error error)
      | .ok rows => fillFrom label handler rows .empty :=
  rfl

variable [DecidableEq κ]

/-- The reads of a collection answer what its requests have come back with. -/
structure Surfaced (family : Family κ ι) (key : κ) (message : Message) (c : Config κ ι) :
    Prop where
  /-- Whoever answers from an attempt of its own has had a reply, and answers what is wrong with
  it. -/
  own : ∀ {i a : Nat} {r : Reader κ ι} {result : ReadResult ι}, c.readers[i]? = some r →
    r.key = key → r.phase = .finished (some a) result →
    ∃ q reply, c.IsRequest a q message ∧ c.reply? q = some reply ∧
      ∀ error, Client.readPayload reply = .error error → result = .error error
  /-- A list goes back to a reply that carries neither a fault nor an exception. -/
  listed : ∀ {i : Nat} {r : Reader κ ι} {own : Option Nat} {listing : Listing ι},
    c.readers[i]? = some r → r.key = key → r.phase = .finished own (.ok listing) →
    ∃ q bytes root, c.IsRequest listing.attempt q message ∧ c.reply? q = some (.ok bytes) ∧
      parseResponse bytes = .ok root ∧ ¬ CarriesFault bytes ∧ ¬ CarriesException bytes
  /-- An error in the reply ends the attempt two turns later. -/
  ended : ∀ {i a q : Nat} {r : Reader κ ι} {reply : Reply} {error : ClientError},
    c.readers[i]? = some r → r.key = key → r.phase.own? = some a → c.IsRequest a q message →
    c.reply? q = some reply → Client.readPayload reply = .error error →
    ∀ later : List (Event κ), 2 ≤ turns i later →
    ∃ s, (later.foldl (step family) c).readers[i]? = some s ∧
      (s.phase = .finished (some a) (.error error) ∨ s.phase = .abandoned (some a))

/-- A collection surfaces faults and exceptions if its program ends with any error of the reply. -/
theorem surfaced_of_program {next : Reply → Population κ ι}
    (hprogram : family.program key = .send message next)
    (herror : ∀ reply error, Client.readPayload reply = .error error →
      next reply = .done (.error error)) (events : List (Event κ)) :
    Surfaced family key message (run family events) := by
  have hheard := Heard.run hprogram events
  have hanswered := Answered.run family events
  have hown : ∀ {i a : Nat} {r : Reader κ ι} {result : ReadResult ι},
      (run family events).readers[i]? = some r → r.key = key →
      r.phase = .finished (some a) result →
      ∃ q reply, (run family events).IsRequest a q message ∧
        (run family events).reply? q = some reply ∧
        ∀ error, Client.readPayload reply = .error error → result = .error error := by
    intro i a r result hr hkey hp
    obtain ⟨q, reply, hq, hreply, houtcome⟩ := hheard.of_finished hr hkey hp
    exact ⟨q, reply, hq, hreply, fun error h => houtcome _ (herror reply error h)⟩
  refine ⟨hown, ?_, ?_⟩
  · intro i r own listing hr hkey hp
    -- The list may have been built by another reader: go back to the one that did.
    have hstate := (hanswered.listed hr hp).1
    rw [hkey] at hstate
    obtain ⟨j, s, hs, hskey, hbuilt⟩ := hanswered.built hstate
    obtain ⟨q, reply, hq, hreply, hsurface⟩ := hown hs hskey hbuilt
    cases hread : Client.readPayload reply with
    | error error =>
      have := hsurface error hread
      cases this
    | ok root =>
      cases reply with
      | error error => cases hread
      | ok bytes =>
        rw [Client.readPayload_ok] at hread
        obtain ⟨hfault, hexception, -⟩ := (classified bytes).answered hread
        exact ⟨q, bytes, root, hq, hreply, hread, hfault, hexception⟩
  · intro i a q r reply error hr hkey hown hq hreply hread later hturns
    have hsettling := hheard.settling hr hkey hown hq hreply (herror reply error hread)
    exact hsettling.foldl hr family hturns

/-- Collections that are filled by a valid Discover request surface faults and exceptions. -/
theorem discover_surfaced {client : Client} {request : RequestType} {catalog : Option String}
    {restrictions : Restrictions} {label : String}
    (hvalid : request.validate restrictions = .ok ())
    (hprogram : family.program key =
      populate label handler (client.discover request catalog restrictions))
    (events : List (Event κ)) :
    Surfaced family key (client.discoverMessage request catalog restrictions)
      (run family events) := by
  rw [Client.discover_of_valid hvalid, populate_message] at hprogram
  refine surfaced_of_program hprogram (fun reply error hread => ?_) events
  simp only [hread, Except.map]

end Deferred.Config

/-- What a server reports is answered as what it is, and never as a payload. Replies are classified
by what their documents carry, calls answer accordingly, and so do all reads of a collection that a
call fills. -/
theorem faults_surface :
    (∀ bytes, Classified bytes (parseResponse bytes)) ∧
    (∀ (client : Client) (request : RequestType) (catalog : Option String)
      (restrictions : Restrictions), request.validate restrictions = .ok () →
      (client.discover request catalog restrictions).Selects
        (client.discoverMessage request catalog restrictions)
        fun root => root.elements.filter (·.name == "row")) ∧
    (∀ (client : Client) (statement : String),
      (client.execute statement).Selects
        ⟨.execute, executeRequest statement
          (Properties.execute client.session.catalog client.session.dataSourceInfo)⟩ id) ∧
    ∀ {κ ι : Type} [Named ι] [DecidableEq κ] (family : Family κ ι) (key : κ) (label : String)
      (handler : RowHandler κ ι) (client : Client) (request : RequestType)
      (catalog : Option String) (restrictions : Restrictions) (events : List (Event κ)),
      request.validate restrictions = .ok () →
      family.program key =
        populate label handler (client.discover request catalog restrictions) →
      Config.Surfaced family key (client.discoverMessage request catalog restrictions)
        (Config.run family events) := by
  refine ⟨classified, ?_, Client.execute_selects, ?_⟩
  · intro client request catalog restrictions hvalid
    exact Client.discover_selects hvalid client catalog
  · intro κ ι _ _ family key label handler client request catalog restrictions events hvalid
      hprogram
    exact Config.discover_surfaced hvalid hprogram events

/-- What the server of the catalogs has run into. -/
def outOfMemory : Bytes :=
  Utf8.encode (fault "SOAP-ENV:Server" "out of memory")

/-- The first reader of the catalogs answers the fault. -/
theorem faults_surface_catalogs :
    RequestType.catalogs.validate .empty = .ok () ∧
    ∃ s, (Config.run TreeKey.family
        [.start (.listed localCatalogs), .advance 0, .advance 0, .deliver 0 (.ok outOfMemory),
          .advance 0, .advance 0]).readers[0]? = some s ∧
      (s.phase = .finished (some 0) (.error (.fault
          ⟨"SOAP-ENV:Server", "out of memory", none, none⟩)) ∨
        s.phase = .abandoned (some 0)) := by
  have hvalid : RequestType.catalogs.validate .empty = .ok () := by decide
  have hread : Client.readPayload (.ok outOfMemory) =
      .error (.fault ⟨"SOAP-ENV:Server", "out of memory", none, none⟩) := by
    have hfault := parseResponse_fault "SOAP-ENV:Server" "out of memory"
    have hcode : Fragment.readBack "SOAP-ENV:Server" = "SOAP-ENV:Server" := by decide
    have hreason : Fragment.readBack "out of memory" = "out of memory" := by decide
    rw [hcode, hreason] at hfault
    rw [Client.readPayload_ok, outOfMemory, hfault]
  have hsurfaced := faults_surface.2.2.2 TreeKey.family (.listed localCatalogs) localCatalogs.label
    localCatalogs.handler localCatalogs.scope.client .catalogs none .empty
    [.start (.listed localCatalogs), .advance 0, .advance 0, .deliver 0 (.ok outOfMemory)]
    hvalid rfl
  exact ⟨hvalid, hsurfaced.ended rfl rfl rfl ⟨rfl, fun p _ hp _ => absurd hp (Nat.not_lt_zero p)⟩
    rfl hread [.advance 0, .advance 0] (by decide)⟩

end CubeClient
