import CubeClient.Proofs.Envelope.Responses
import CubeClient.Proofs.Lists.Places
import CubeClient.Request.Message
import CubeClient.Transport.Canned
import Mathlib.Data.List.Induction

/-!
# Which fixture answers

Several fixtures may match one request. The one that answers is told by its place among the others:
no other that matches has more restrictions, and none behind it has as many (`Fixture.IsChosen`).
One more fixture at the end therefore takes over exactly the requests that it matches at least as
closely as all others (`CannedServer.answer_concat`). Whether a request is matched makes no
difference to the log, which has every request once, in the order of arrival.
-/

namespace CubeClient

open CubeClient.Envelope CubeClient.Text CubeClient.Xml

/-- The first pair of a name has this value. -/
def Pairs.FirstIs (pairs : Pairs) (key value : String) : Prop :=
  ∃ before after, pairs.entries = before ++ (key, value) :: after ∧ ∀ pair ∈ before, pair.1 ≠ key

theorem Pairs.get?_eq_some_iff {pairs : Pairs} {key value : String} :
    pairs.get? key = some value ↔ pairs.FirstIs key value := by
  rw [get?, Option.map_eq_some_iff]
  constructor
  · rintro ⟨⟨own, _⟩, hfind, rfl⟩
    obtain ⟨hown, before, after, hsplit, hbefore⟩ := List.find?_eq_some_iff_append.mp hfind
    obtain rfl := eq_of_beq hown
    exact ⟨before, after, hsplit, fun pair hpair => by simpa using hbefore pair hpair⟩
  · rintro ⟨before, after, hsplit, hbefore⟩
    refine ⟨(key, value), List.find?_eq_some_iff_append.mpr ?_, rfl⟩
    exact ⟨beq_self_eq_true _, before, after, hsplit, fun pair hpair => by
      simpa using hbefore pair hpair⟩

namespace Fixture

variable {fixtures : List Fixture} {request : RecordedRequest} {fixture last other : Fixture}

/-! ## Matching -/

/-- A fixture is for a request of its action and, if it names one, of its type, whose first value
for each of its keys is the fixture's. -/
structure Matches (fixture : Fixture) (request : RecordedRequest) : Prop where
  action : fixture.action = request.action
  requestType : ∀ type, fixture.requestType = some type → request.requestType = some type
  restrictions : ∀ key value, (key, value) ∈ fixture.restrictions.entries →
    request.restrictions.FirstIs key value

/-- The check of a fixture is what it takes to match. -/
theorem isFor_iff : fixture.isFor request = true ↔ fixture.Matches request := by
  have htype : (fixture.requestType.isNone || fixture.requestType == request.requestType) = true ↔
      ∀ type, fixture.requestType = some type → request.requestType = some type := by
    cases fixture.requestType with
    | none => simp
    | some type =>
      rw [Option.isNone_some, Bool.false_or, beq_iff_eq]
      exact ⟨fun h other hother => h ▸ hother, fun h => (h type rfl).symm⟩
  have hpairs : (fixture.restrictions.entries.all fun pair =>
        request.restrictions.get? pair.1 == some pair.2) = true ↔
      ∀ key value, (key, value) ∈ fixture.restrictions.entries →
        request.restrictions.FirstIs key value := by
    simp [List.all_eq_true, Pairs.get?_eq_some_iff]
  rw [isFor, Bool.and_eq_true, Bool.and_eq_true, beq_iff_eq, htype, hpairs]
  exact ⟨fun h => ⟨h.1.1, h.1.2, h.2⟩, fun h => ⟨⟨h.action, h.requestType⟩, h.restrictions⟩⟩

/-! ## The fixture that is chosen -/

/-- No fixture of a list that matches a request has more restrictions than this one. -/
def AtLeast (fixture : Fixture) (fixtures : List Fixture) (request : RecordedRequest) : Prop :=
  ∀ other ∈ fixtures, other.Matches request →
    other.restrictions.size ≤ fixture.restrictions.size

/-- The fixture that answers a request: it matches, no other that matches has more restrictions, and
none behind it has as many. -/
structure IsChosen (fixtures : List Fixture) (request : RecordedRequest) (fixture : Fixture) :
    Prop where
  matching : fixture.Matches request
  place : ∃ before after, fixtures = before ++ fixture :: after ∧
    fixture.AtLeast before request ∧
    ∀ other ∈ after, other.Matches request →
      other.restrictions.size < fixture.restrictions.size

theorem IsChosen.mem (h : IsChosen fixtures request fixture) : fixture ∈ fixtures := by
  obtain ⟨before, after, rfl, -, -⟩ := h.place
  exact List.mem_append_right _ List.mem_cons_self

theorem IsChosen.atLeast (h : IsChosen fixtures request fixture) :
    fixture.AtLeast fixtures request := by
  obtain ⟨before, after, rfl, hbefore, hafter⟩ := h.place
  intro other hother hmatches
  rcases List.mem_append.mp hother with hother | hother
  · exact hbefore other hother hmatches
  · rcases List.mem_cons.mp hother with rfl | hother
    · exact Nat.le_refl _
    · exact Nat.le_of_lt (hafter other hother hmatches)

/-- Of a list with one more fixture, this one is chosen or the one that was before. -/
theorem isChosen_concat : IsChosen (fixtures ++ [last]) request fixture ↔
    (fixture = last ∧ last.Matches request ∧ last.AtLeast fixtures request) ∨
      (IsChosen fixtures request fixture ∧
        (last.Matches request → last.restrictions.size < fixture.restrictions.size)) := by
  constructor
  · rintro ⟨hmatches, before, after, hsplit, hbefore, hafter⟩
    obtain ⟨rfl, rfl, -⟩ | ⟨init, rfl, rfl⟩ := concat_eq_append_cons_iff.mp hsplit
    · exact .inl ⟨rfl, hmatches, hbefore⟩
    · obtain ⟨hinit, hlast⟩ := List.forall_mem_append.mp hafter
      exact .inr ⟨⟨hmatches, before, init, rfl, hbefore, hinit⟩, hlast last List.mem_cons_self⟩
  · rintro (⟨rfl, hmatches, hbefore⟩ | ⟨⟨hmatches, before, after, rfl, hbefore, hafter⟩, hlast⟩)
    · exact ⟨hmatches, fixtures, [], rfl, hbefore, fun _ h => absurd h List.not_mem_nil⟩
    · refine ⟨hmatches, before, after ++ [last],
        concat_eq_append_cons_iff.mpr (.inr ⟨after, rfl, rfl⟩), hbefore, ?_⟩
      exact List.forall_mem_append.mpr ⟨hafter, List.forall_mem_singleton.mpr hlast⟩

/-- One more fixture wins if it matches and nothing before it is more specific. -/
theorem best?_concat (fixtures : List Fixture) (last : Fixture) (request : RecordedRequest) :
    best? (fixtures ++ [last]) request =
      if last.isFor request then moreSpecific (best? fixtures request) last
      else best? fixtures request := by
  rw [best?, List.filter_append, List.foldl_append, ← best?]
  cases hfor : last.isFor request <;> simp [hfor]

theorem best?_eq_none_iff :
    best? fixtures request = none ↔ ∀ fixture ∈ fixtures, ¬ fixture.Matches request := by
  induction fixtures using List.reverseRecOn with
  | nil => exact ⟨fun _ fixture h => absurd h List.not_mem_nil, fun _ => rfl⟩
  | append_singleton fixtures last ih =>
    rw [best?_concat, List.forall_mem_append, List.forall_mem_singleton, ← ih, ← isFor_iff]
    cases last.isFor request with
    | false => simp
    | true =>
      cases best? fixtures request with
      | none => simp [moreSpecific]
      | some best =>
        rw [if_pos rfl, moreSpecific]
        split <;> simp

/-- The answer that is chosen is the last of the most specific ones that match. -/
theorem best?_eq_some_iff :
    best? fixtures request = some fixture ↔ IsChosen fixtures request fixture := by
  induction fixtures using List.reverseRecOn generalizing fixture with
  | nil => exact ⟨fun h => (nomatch h), fun h => absurd h.mem List.not_mem_nil⟩
  | append_singleton fixtures last ih =>
    rw [best?_concat, isChosen_concat]
    by_cases hlast : last.Matches request
    · rw [if_pos (isFor_iff.mpr hlast)]
      cases hbest : best? fixtures request with
      | none =>
        have hnone := best?_eq_none_iff.mp hbest
        constructor
        · intro h
          obtain rfl := Option.some.inj h
          exact .inl ⟨rfl, hlast, fun other hother h => absurd h (hnone other hother)⟩
        · rintro (⟨rfl, -, -⟩ | ⟨h, -⟩)
          · rfl
          · exact absurd h.matching (hnone fixture h.mem)
      | some best =>
        have hchosen := ih.mp hbest
        rw [moreSpecific]
        split
        · rename_i hless
          constructor
          · intro h
            obtain rfl := Option.some.inj h
            exact .inr ⟨hchosen, fun _ => hless⟩
          · rintro (⟨rfl, -, hleast⟩ | ⟨h, -⟩)
            · exact absurd (hleast best hchosen.mem hchosen.matching) (Nat.not_le.mpr hless)
            · rw [← hbest]
              exact ih.mpr h
        · rename_i hless
          have hle := Nat.not_lt.mp hless
          constructor
          · intro h
            obtain rfl := Option.some.inj h
            exact .inl ⟨rfl, hlast, fun other hother h =>
              Nat.le_trans (hchosen.atLeast other hother h) hle⟩
          · rintro (⟨rfl, -, -⟩ | ⟨h, hbehind⟩)
            · rfl
            · have heq : best = fixture := Option.some.inj (hbest.symm.trans (ih.mpr h))
              rw [heq] at hless
              exact absurd (hbehind hlast) hless
    · rw [if_neg (mt isFor_iff.mp hlast), ih]
      constructor
      · exact fun h => .inr ⟨h, fun hmatches => absurd hmatches hlast⟩
      · rintro (⟨-, hmatches, -⟩ | ⟨h, -⟩)
        · exact absurd hmatches hlast
        · exact h

end Fixture

namespace CannedServer

variable {fixtures : List Fixture} {request : RecordedRequest} {fixture : Fixture}

/-! ## Answers -/

theorem answer_of_chosen (h : Fixture.IsChosen fixtures request fixture) :
    answer fixtures request = fixture.body := by
  rw [answer, Fixture.best?_eq_some_iff.mpr h]

/-- Without a match, the answer is the fault that says so. -/
theorem answer_of_unmatched (h : ∀ fixture ∈ fixtures, ¬ fixture.Matches request) :
    answer fixtures request = noAnswer request := by
  rw [answer, Fixture.best?_eq_none_iff.mpr h]

theorem exists_chosen (h : ∃ fixture ∈ fixtures, fixture.Matches request) :
    ∃ fixture, Fixture.IsChosen fixtures request fixture := by
  cases hbest : Fixture.best? fixtures request with
  | none =>
    obtain ⟨fixture, hfixture, hmatches⟩ := h
    exact absurd hmatches (Fixture.best?_eq_none_iff.mp hbest fixture hfixture)
  | some fixture => exact ⟨fixture, Fixture.best?_eq_some_iff.mp hbest⟩

/-- One more fixture takes over the requests that it matches as closely as any other. -/
theorem answer_concat (h : fixture.Matches request) (hleast : fixture.AtLeast fixtures request) :
    answer (fixtures ++ [fixture]) request = fixture.body :=
  answer_of_chosen (Fixture.isChosen_concat.mpr (.inl ⟨rfl, h, hleast⟩))

/-- All other requests are answered as before. -/
theorem answer_concat_of_not (h : fixture.Matches request → ¬ fixture.AtLeast fixtures request) :
    answer (fixtures ++ [fixture]) request = answer fixtures request := by
  cases hbest : Fixture.best? fixtures request with
  | none =>
    have hnone := Fixture.best?_eq_none_iff.mp hbest
    have hlast : ¬ fixture.Matches request := fun hmatches =>
      h hmatches fun other hother hother_matches => absurd hother_matches (hnone other hother)
    rw [answer_of_unmatched hnone, answer_of_unmatched]
    exact List.forall_mem_append.mpr ⟨hnone, List.forall_mem_singleton.mpr hlast⟩
  | some best =>
    have hchosen := Fixture.best?_eq_some_iff.mp hbest
    rw [answer_of_chosen hchosen, answer_of_chosen]
    refine Fixture.isChosen_concat.mpr (.inr ⟨hchosen, fun hmatches => ?_⟩)
    by_contra hle
    exact h hmatches fun other hother hother_matches =>
      Nat.le_trans (hchosen.atLeast other hother hother_matches) (Nat.not_lt.mp hle)

/-- What is answered without a fixture is read as a fault that names the request. -/
theorem parseResponse_noAnswer (request : RecordedRequest) :
    parseResponse (noAnswer request) = .error (.fault
      ⟨"SOAP-ENV:Client", "no canned response for " ++ request.subject, none, none⟩) := by
  have hcode : Fragment.readBack "SOAP-ENV:Client" = "SOAP-ENV:Client" := by decide
  have hreason : Fragment.readBack ("no canned response for " ++ request.subject) =
      "no canned response for " ++ request.subject := by
    have hfull : isBlank ("no canned response for " ++ request.subject) = false := by
      rw [isBlank, String.toList_append, List.all_append]
      rfl
    rw [Fragment.readBack, hfull, if_neg Bool.false_ne_true]
  rw [noAnswer, parseResponse_fault, hcode, hreason]

/-! ## The log -/

/-- The request that a message is. -/
def recorded (message : Message) : RecordedRequest :=
  RecordedRequest.ofBody message.action message.body

/-- Receives messages one after the other and answers each. -/
def exchangeAll (server : CannedServer) : List Message → List Bytes × CannedServer
  | [] => ([], server)
  | message :: rest =>
    let (body, server) := server.exchange message.action message.body
    let (bodies, server) := server.exchangeAll rest
    (body :: bodies, server)

/-- Messages are logged in the order of their arrival, and none changes what the others are
answered. -/
theorem exchangeAll_eq (server : CannedServer) (messages : List Message) :
    server.exchangeAll messages =
      (messages.map fun message => answer server.fixtures (recorded message),
        { server with
          requestCount := server.requestCount + messages.length
          received := server.received ++ messages.map recorded }) := by
  induction messages generalizing server with
  | nil =>
    rw [exchangeAll, List.map_nil, List.map_nil, List.append_nil, List.length_nil, Nat.add_zero]
  | cons message rest ih =>
    have hcount : server.requestCount + 1 + rest.length =
        server.requestCount + (message :: rest).length := by
      rw [List.length_cons]
      omega
    rw [exchangeAll, exchange]
    dsimp only
    rw [ih, hcount, List.map_cons, List.map_cons, List.append_assoc, List.singleton_append]
    rfl

/-- What a server of these fixtures answers, and what it knows of its requests afterwards. -/
structure Serves (fixtures : List Fixture) : Prop where
  /-- A request that is matched is answered by the fixture that is chosen. -/
  matched : ∀ request, (∃ fixture ∈ fixtures, fixture.Matches request) →
    ∃ fixture, Fixture.IsChosen fixtures request fixture ∧
      answer fixtures request = fixture.body
  /-- Any other is answered with a fault that names its type, or else its action. -/
  unmatched : ∀ request, (∀ fixture ∈ fixtures, ¬ fixture.Matches request) →
    parseResponse (answer fixtures request) = .error (.fault
      ⟨"SOAP-ENV:Client", "no canned response for " ++ request.subject, none, none⟩)
  /-- One more fixture at the end answers what it matches as closely as any other, and changes no
  other answer. -/
  added : ∀ (fixture : Fixture) (request : RecordedRequest), fixture.Matches request →
    fixture.AtLeast fixtures request → answer (fixtures ++ [fixture]) request = fixture.body
  kept : ∀ (fixture : Fixture) (request : RecordedRequest),
    (fixture.Matches request → ¬ fixture.AtLeast fixtures request) →
    answer (fixtures ++ [fixture]) request = answer fixtures request
  answers : ∀ messages, ((ofFixtures fixtures).exchangeAll messages).1 =
    messages.map fun message => answer fixtures (recorded message)
  /-- Every message is logged and counted, in the order of arrival. -/
  received : ∀ messages, ((ofFixtures fixtures).exchangeAll messages).2.received =
    messages.map recorded
  requestCount : ∀ messages, ((ofFixtures fixtures).exchangeAll messages).2.requestCount =
    messages.length
  requestsFor : ∀ messages (type : RequestType),
    ((ofFixtures fixtures).exchangeAll messages).2.requestsFor type =
      messages.countP fun message => (recorded message).requestType == some type.name

/-- A canned server answers each request by the last of the closest fixtures, and logs them all. -/
theorem fixtures_serve (fixtures : List Fixture) : Serves fixtures where
  matched request h := by
    obtain ⟨fixture, hchosen⟩ := exists_chosen h
    exact ⟨fixture, hchosen, answer_of_chosen hchosen⟩
  unmatched request h := by
    rw [answer_of_unmatched h, parseResponse_noAnswer]
  added fixture request := answer_concat
  kept fixture request := answer_concat_of_not
  answers messages := by
    rw [exchangeAll_eq]
    rfl
  received messages := by
    rw [exchangeAll_eq]
    rfl
  requestCount messages := by
    rw [exchangeAll_eq]
    exact Nat.zero_add messages.length
  requestsFor messages type := by
    rw [exchangeAll_eq, CannedServer.requestsFor, ← List.countP_eq_length_filter]
    exact List.countP_map

end CannedServer

end CubeClient
