import CubeClient.Proofs.Deferred.Reentrancy
import CubeClient.Proofs.Deferred.Replies
import CubeClient.Proofs.Deferred.Terms

/-!
# Ways through a program

Which way a program takes depends on what it hears. `Leads` is such a way, from a program to what is
left of it, along the replies to the messages of an attempt and the answers of the reads that were
issued for it. Every reader that has made an attempt has come along a way through the program of its
collection, and the reads on this way are all that were ever issued on its behalf (`Traced.run`). So
what an attempt has ended with can be read off the program, the replies and the answers of these
reads (`ended`).
-/

namespace CubeClient.Deferred

namespace Config

variable {κ ι α : Type} [Named ι] {family : Family κ ι} {c d : Config κ ι} {i j a : Nat} {key : κ}
  {r s : Reader κ ι} {result : ReadResult ι}

/-- A read of a collection that a reader has issued. -/
def Issued (c : Config κ ι) (i j : Nat) (key : κ) : Prop :=
  ∃ s, c.readers[j]? = some s ∧ s.ancestors.head? = some i ∧ s.key = key

/-- A read of a collection that a reader has issued has answered. -/
def Returned (c : Config κ ι) (i : Nat) (key : κ) (result : ReadResult ι) : Prop :=
  ∃ j, c.Issued i j key ∧ c.result? j = some result

/-- A list that has been returned is the list of its collection. -/
theorem Answered.populated_of_returned (h : Answered c) {listing : Listing ι}
    (hreturned : c.Returned i key (.ok listing)) : (c.cells key).state = .populated listing := by
  obtain ⟨j, ⟨s, hs, -, rfl⟩, hresult⟩ := hreturned
  rw [result?, hs, Option.bind_some] at hresult
  obtain ⟨own, hp⟩ := Phase.eq_finished_of_result? hresult
  exact (h.listed hs hp).1

/-- Reads side by side have returned what each of them has answered. -/
theorem forall₂_returned {children : List Nat} {keys : List κ} {listings : List (Listing ι)}
    (hissued : List.Forall₂ (c.Issued i) children keys)
    (h : List.Forall₂ (fun j listing => c.result? j = some (.ok listing)) children listings) :
    List.Forall₂ (fun key listing => c.Returned i key (.ok listing)) keys listings := by
  induction hissued generalizing listings with
  | nil =>
    cases h
    exact .nil
  | cons hj _ ih =>
    cases h with
    | cons hlisting hrest => exact .cons ⟨_, hj, hlisting⟩ (ih hrest)

/-- What is read on behalf of a reader directly is what its own collection may read. -/
theorem Kept.reads_of_issued {terms : Terms κ ι} {label : κ → String} (h : Kept terms label c)
    (hn : Nested family c) (hr : c.readers[i]? = some r) (hissued : c.Issued i j key) :
    terms.reads r.key key := by
  obtain ⟨s, hs, hhead, rfl⟩ := hissued
  have htracked := hn.tracked hs
  have hchain := h.inside hs
  obtain ⟨rest, hancestors⟩ := List.head?_eq_some_iff.mp hhead
  rw [hancestors] at htracked
  generalize s.within = within at htracked hchain
  cases htracked with
  | cons hfirst _ =>
    obtain ⟨b, q, hq, rfl, -⟩ := hfirst
    obtain rfl := Option.some.inj (hr.symm.trans hq)
    exact (List.isChain_cons_cons.mp hchain).1

/-- A program goes on once it has heard what it asked for. The list holds the reads for which it has
waited. -/
inductive Continues (c : Config κ ι) (i a : Nat) :
    List Nat → Program κ ι α → Program κ ι α → Prop
  | reply {q : Nat} {message : Message} {next : Reply → Program κ ι α} {reply : Reply}
      (hq : c.sent[q]? = some ⟨a, message⟩) (h : c.reply? q = some reply) :
      Continues c i a [] (.send message next) (next reply)
  | owned {key : κ} {next : Bool → Program κ ι α} (answer : Bool) :
      Continues c i a [] (.owned key next) (next answer)
  | read {j : Nat} {key : κ} {next : ReadResult ι → Program κ ι α} {result : ReadResult ι}
      (hj : c.Issued i j key) (h : c.result? j = some result) :
      Continues c i a [j] (.read key next) (next result)
  | joined {children : List Nat} {keys : List κ}
      {next : Except ClientError (List (Listing ι)) → Program κ ι α} {listings : List (Listing ι)}
      (hchildren : List.Forall₂ (c.Issued i) children keys)
      (h : List.Forall₂ (fun j listing => c.result? j = some (.ok listing)) children listings) :
      Continues c i a children (.readAll keys next) (next (.ok listings))
  | failed {children : List Nat} {keys : List κ}
      {next : Except ClientError (List (Listing ι)) → Program κ ι α} {j : Nat} {e : ClientError}
      (hchildren : List.Forall₂ (c.Issued i) children keys) (hj : j ∈ children)
      (h : c.result? j = some (.error e)) :
      Continues c i a children (.readAll keys next) (next (.error e))

/-- A program goes on as often as it likes. -/
inductive Leads (c : Config κ ι) (i a : Nat) : List Nat → Program κ ι α → Program κ ι α → Prop
  | refl {program : Program κ ι α} : Leads c i a [] program program
  | head {children others : List Nat} {program rest last : Program κ ι α}
      (h : Continues c i a children program rest) (hrest : Leads c i a others rest last) :
      Leads c i a (children ++ others) program last

theorem Leads.concat {children others : List Nat} {program rest last : Program κ ι α}
    (h : Leads c i a children program rest) (hlast : Continues c i a others rest last) :
    Leads c i a (children ++ others) program last := by
  induction h with
  | refl =>
    have hone := Leads.head hlast .refl
    rwa [List.append_nil] at hone
  | head hfirst _ ih =>
    rw [List.append_assoc]
    exact .head hfirst (ih hlast)

theorem Leads.of_done {children : List Nat} {last : Program κ ι α} {x : α}
    (h : Leads c i a children (.done x) last) : children = [] ∧ last = .done x := by
  cases h with
  | refl => exact ⟨rfl, rfl⟩
  | head hfirst => cases hfirst

/-- A program that sends first has had the reply, and goes on with it. -/
theorem Leads.of_send {children : List Nat} {message : Message} {next : Reply → Program κ ι α}
    {x : α} (h : Leads c i a children (.send message next) (.done x)) :
    ∃ q reply, c.sent[q]? = some ⟨a, message⟩ ∧ c.reply? q = some reply ∧
      Leads c i a children (next reply) (.done x) := by
  cases h with
  | head hfirst hrest =>
    cases hfirst with
    | @reply q _ _ reply hq hreply => exact ⟨q, reply, hq, hreply, hrest⟩

/-- A program that asks for the owner first goes on with either answer. -/
theorem Leads.of_owned {children : List Nat} {next : Bool → Program κ ι α} {x : α}
    (h : Leads c i a children (.owned key next) (.done x)) :
    ∃ answer, Leads c i a children (next answer) (.done x) := by
  cases h with
  | head hfirst hrest =>
    cases hfirst with
    | owned answer => exact ⟨answer, hrest⟩

/-- A program that reads first has issued the read, and goes on with its answer. -/
theorem Leads.of_read {children : List Nat} {next : ReadResult ι → Program κ ι α} {x : α}
    (h : Leads c i a children (.read key next) (.done x)) :
    ∃ j others result, children = j :: others ∧ c.Issued i j key ∧ c.result? j = some result ∧
      Leads c i a others (next result) (.done x) := by
  cases h with
  | @head _ others _ _ _ hfirst hrest =>
    cases hfirst with
    | @read j _ _ result hj hresult => exact ⟨j, others, result, rfl, hj, hresult, hrest⟩

/-- A way through a program and what it goes on with is a way through the one and then one through
the other. -/
theorem Leads.of_bind {β : Type} {program : Program κ ι β} {f : β → Program κ ι α} {x : α}
    {children : List Nat} (h : Leads c i a children (program.bind f) (.done x)) :
    ∃ y first rest, children = first ++ rest ∧ Leads c i a first program (.done y) ∧
      Leads c i a rest (f y) (.done x) := by
  induction program generalizing children with
  | done y => exact ⟨y, [], children, rfl, .refl, h⟩
  | send message next ih =>
    cases h with
    | head hfirst hrest =>
      cases hfirst with
      | @reply _ _ _ reply hq hreply =>
        obtain ⟨y, first, rest, rfl, hnext, hlast⟩ := ih reply hrest
        exact ⟨y, first, rest, rfl, .head (.reply hq hreply) hnext, hlast⟩
  | owned key next ih =>
    cases h with
    | head hfirst hrest =>
      cases hfirst with
      | owned answer =>
        obtain ⟨y, first, rest, rfl, hnext, hlast⟩ := ih answer hrest
        exact ⟨y, first, rest, rfl, .head (.owned answer) hnext, hlast⟩
  | read key next ih =>
    cases h with
    | head hfirst hrest =>
      cases hfirst with
      | @read j _ _ result hj hresult =>
        obtain ⟨y, first, rest, rfl, hnext, hlast⟩ := ih result hrest
        exact ⟨y, j :: first, rest, rfl, .head (.read hj hresult) hnext, hlast⟩
  | readAll keys next ih =>
    cases h with
    | @head others _ _ _ _ hfirst hrest =>
      cases hfirst with
      | @joined _ _ _ listings hothers hlistings =>
        obtain ⟨y, first, rest, rfl, hnext, hlast⟩ := ih (.ok listings) hrest
        exact ⟨y, others ++ first, rest, (List.append_assoc _ _ _).symm,
          .head (.joined hothers hlistings) hnext, hlast⟩
      | @failed _ _ _ j e hothers hj hfailed =>
        obtain ⟨y, first, rest, rfl, hnext, hlast⟩ := ih (.error e) hrest
        exact ⟨y, others ++ first, rest, (List.append_assoc _ _ _).symm,
          .head (.failed hothers hj hfailed) hnext, hlast⟩

/-! ## What a configuration keeps -/

/-- What has been issued, answered, sent and received stays so. -/
structure Grows (c d : Config κ ι) : Prop where
  issued : ∀ {i j : Nat} {key : κ}, c.Issued i j key → d.Issued i j key
  result : ∀ {j : Nat} {result : ReadResult ι}, c.result? j = some result →
    d.result? j = some result
  sent : c.sent <+: d.sent
  replies : c.replies <+: d.replies

theorem Grows.sent_getElem? {q : Nat} {sent : Sent} (h : Grows c d) (hq : c.sent[q]? = some sent) :
    d.sent[q]? = some sent := by
  obtain ⟨new, hnew⟩ := h.sent
  rw [← hnew, List.getElem?_append_left (List.getElem?_eq_some_iff.mp hq).1, hq]

theorem Grows.reply?_eq_some {q : Nat} {reply : Reply} (h : Grows c d)
    (hreply : c.reply? q = some reply) : d.reply? q = some reply :=
  reply?_of_prefix h.replies hreply

theorem Continues.mono {children : List Nat} {program rest : Program κ ι α}
    (h : Continues c i a children program rest) (hk : Grows c d) :
    Continues d i a children program rest := by
  cases h with
  | reply hq h => exact .reply (hk.sent_getElem? hq) (hk.reply?_eq_some h)
  | owned answer => exact .owned answer
  | read hj h => exact .read (hk.issued hj) (hk.result h)
  | joined hchildren h =>
    exact .joined (hchildren.imp fun _ _ => hk.issued) (h.imp fun _ _ => hk.result)
  | failed hchildren hj h => exact .failed (hchildren.imp fun _ _ => hk.issued) hj (hk.result h)

theorem Leads.mono {children : List Nat} {program rest : Program κ ι α}
    (h : Leads c i a children program rest) (hk : Grows c d) :
    Leads d i a children program rest := by
  induction h with
  | refl => exact .refl
  | head hfirst _ ih => exact .head (hfirst.mono hk) ih

/-- How far a reader has come in a program, and along which reads. -/
inductive Trace (c : Config κ ι) (i : Nat) (program : Population κ ι) :
    List Nat → Phase κ ι → Prop
  | working {children : List Nat} {a : Nat} {rest : Population κ ι}
      (h : Leads c i a children program rest) : Trace c i program children (.working a rest)
  | awaitingReply {children : List Nat} {a q : Nat} {message : Message}
      {next : Reply → Population κ ι} (h : Leads c i a children program (.send message next))
      (hq : c.sent[q]? = some ⟨a, message⟩) :
      Trace c i program children (.awaitingReply a q next)
  | awaitingRead {children : List Nat} {a j : Nat} {key : κ} {next : ReadResult ι → Population κ ι}
      (h : Leads c i a children program (.read key next)) (hj : c.Issued i j key) :
      Trace c i program (children ++ [j]) (.awaitingRead a j next)
  | awaitingReads {children others : List Nat} {a : Nat} {keys : List κ}
      {next : Except ClientError (List (Listing ι)) → Population κ ι}
      (h : Leads c i a children program (.readAll keys next))
      (hothers : List.Forall₂ (c.Issued i) others keys) :
      Trace c i program (children ++ others) (.awaitingReads a others next)
  | finished {children : List Nat} {a : Nat} {outcome : Except ClientError (NamedList ι)}
      (h : Leads c i a children program (.done outcome)) :
      Trace c i program children (.finished (some a) (outcome.map fun items => ⟨a, items⟩))

theorem Trace.mono {children : List Nat} {program : Population κ ι} {phase : Phase κ ι}
    (h : Trace c i program children phase) (hk : Grows c d) :
    Trace d i program children phase := by
  cases h with
  | working h => exact .working (h.mono hk)
  | awaitingReply h hq => exact .awaitingReply (h.mono hk) (hk.sent_getElem? hq)
  | awaitingRead h hj => exact .awaitingRead (h.mono hk) (hk.issued hj)
  | awaitingReads h hothers => exact .awaitingReads (h.mono hk) (hothers.imp fun _ _ => hk.issued)
  | finished h => exact .finished (h.mono hk)

/-- Whoever has made an attempt and has not been given up has come along a way through the program
of its collection, and has issued no reads but those on it. -/
structure Traced (family : Family κ ι) (c : Config κ ι) : Prop where
  way : ∀ {i a : Nat} {r : Reader κ ι}, c.readers[i]? = some r → r.phase.own? = some a →
    (∃ own, r.phase = .abandoned own) ∨
      ∃ children, Trace c i (family.program r.key) children r.phase ∧
        ∀ j s, c.readers[j]? = some s → s.ancestors.head? = some i → j ∈ children

theorem Traced.initial : Traced family (Config.initial : Config κ ι) where
  way h := by cases h

section Steps

variable [DecidableEq κ]

/-- A step changes no answer. -/
theorem Transition.result?_eq_some (ht : Transition family c d) (h : c.result? j = some result) :
    d.result? j = some result := by
  obtain ⟨r, hr, hresult⟩ := Option.bind_eq_some_iff.mp h
  obtain ⟨phase, hd, rfl | hturn⟩ := ht.reader hr
  · rw [Config.result?, hd]
    exact hresult
  · have hlive := hturn.isOver
    rw [Phase.isOver_of_result? hresult] at hlive
    cases hlive

/-- A step takes no read from its issuer. -/
theorem Transition.issued (ht : Transition family c d) (h : c.Issued i j key) :
    d.Issued i j key := by
  obtain ⟨s, hs, hhead, hkey⟩ := h
  obtain ⟨phase, hd, -⟩ := ht.reader hs
  exact ⟨_, hd, hhead, hkey⟩

/-- Nothing that was issued, answered, sent or received is lost in a step. -/
theorem Transition.grows (ht : Transition family c d) (hreplies : c.replies <+: d.replies) :
    Grows c d where
  issued := ht.issued
  result := ht.result?_eq_some
  sent := ht.sent_prefix
  replies := hreplies

/-- Reads on behalf of a reader were there before, or it has just issued them. -/
theorem Transition.issued_cases (ht : Transition family c d) (hr : c.readers[i]? = some r)
    {phase : Phase κ ι} (hd : d.readers[i]? = some { r with phase }) (hs : d.readers[j]? = some s)
    (hhead : s.ancestors.head? = some i) :
    (∃ q, c.readers[j]? = some q ∧ q.ancestors.head? = some i) ∨
      (j ∈ phase.awaited ∧ ∃ a program, r.phase = .working a program) := by
  rcases ht.before hs with ⟨q, hq, hsame, -⟩ | ⟨-, hborn⟩
  · exact .inl ⟨q, hq, hsame.ancestors ▸ hhead⟩
  · cases hborn with
    | outside _ ha =>
      rw [ha] at hhead
      cases hhead
    | inside _ hq hprogram _ ha _ hdq hj =>
      rw [ha] at hhead
      obtain rfl := Option.some.inj hhead
      obtain rfl := Option.some.inj (hq.symm.trans hr)
      have hphase := congrArg Reader.phase (Option.some.inj (hdq.symm.trans hd))
      simp only at hphase
      exact .inr ⟨hphase ▸ hj, _, _, hprogram⟩

end Steps

namespace Traced

/-- A turn of a reader that has made an attempt brings it further along its way. -/
theorem turn (h : Traced family c) (hr : c.readers[i]? = some r) (hown : r.phase.own? = some a)
    {phase : Phase κ ι} (ht : Turn family c d i r phase) (hk : Grows c d) :
    (∃ own, phase = .abandoned own) ∨
      ∃ children, Trace d i (family.program r.key) children phase ∧
        (∀ j s, c.readers[j]? = some s → s.ancestors.head? = some i → j ∈ children) ∧
        phase.awaited ⊆ children := by
  have hlive := ht.isOver
  rcases h.way hr hown with ⟨own, hdropped⟩ | ⟨children, htrace, hall⟩
  · rw [hdropped] at hlive
    cases hlive
  have hway := htrace.mono hk
  cases ht with
  | shift hshift hnew hsent =>
    refine .inr ?_
    cases hshift with
    | send hp =>
      rw [hp] at hway
      cases hway with
      | working hleads =>
        refine ⟨children, .awaitingReply hleads ?_, hall, List.nil_subset _⟩
        rw [hsent, List.getElem?_concat_length]
    | @owned _ key _ hp =>
      rw [hp] at hway
      cases hway with
      | working hleads =>
        have hnext := hleads.concat (.owned (c.owned key))
        rw [List.append_nil] at hnext
        exact ⟨children, .working hnext, hall, List.nil_subset _⟩
    | read hp =>
      rw [hp] at hway
      cases hway with
      | working hleads =>
        exact ⟨_, .awaitingRead hleads ⟨_, hnew 0 _ rfl, rfl, rfl⟩,
          fun j s hs hhead => List.mem_append_left _ (hall j s hs hhead),
          List.subset_append_right _ _⟩
    | readAll hp =>
      rw [hp] at hway
      cases hway with
      | working hleads =>
        exact ⟨_, .awaitingReads hleads
            ((forall₂_childReaders hnew).imp fun _ _ hs => ⟨_, hs, rfl, rfl⟩),
          fun j s hs hhead => List.mem_append_left _ (hall j s hs hhead),
          List.subset_append_right _ _⟩
    | reply hp hreply =>
      rw [hp] at hway
      cases hway with
      | awaitingReply hleads hq =>
        have hnext := hleads.concat (.reply hq (hk.reply?_eq_some hreply))
        rw [List.append_nil] at hnext
        exact ⟨children, .working hnext, hall, List.nil_subset _⟩
    | result hp hread =>
      rw [hp] at hway
      cases hway with
      | awaitingRead hleads hj =>
        exact ⟨_, .working (hleads.concat (.read hj (hk.result hread))), hall, List.nil_subset _⟩
    | joined hp hjoined =>
      rw [hp] at hway
      cases hway with
      | awaitingReads hleads hothers =>
        have hlists := (forall₂_of_joined? hjoined).imp fun _ _ => hk.result
        exact ⟨_, .working (hleads.concat (.joined hothers hlists)), hall, List.nil_subset _⟩
    | _ => rename r.phase = _ => hp; rw [hp] at hown; cases hown
  | fill hp =>
    rw [hp] at hown
    cases hown
  | finish hp =>
    rw [hp] at hway
    cases hway with
    | working hleads => exact .inr ⟨_, .finished hleads, hall, List.nil_subset _⟩
  | fail hp _ hjoined =>
    rw [hp] at hway
    cases hway with
    | awaitingReads hleads hothers =>
      obtain ⟨j, hj, hfailed⟩ := exists_of_joined?_error hjoined
      exact .inr ⟨_, .working (hleads.concat (.failed hothers hj (hk.result hfailed))), hall,
        List.nil_subset _⟩
  | drop => exact .inl ⟨_, rfl⟩

/-- An attempt that is over has ended with what its program comes to along all the reads that were
issued for it. -/
theorem ended (h : Traced family c) (hr : c.readers[i]? = some r)
    (hp : r.phase = .finished (some a) result) :
    ∃ (children : List Nat) (outcome : Except ClientError (NamedList ι)),
      Leads c i a children (family.program r.key) (.done outcome) ∧
      (result = outcome.map fun items => ⟨a, items⟩) ∧
      ∀ {j : Nat} {key : κ}, c.Issued i j key → j ∈ children := by
  rcases h.way hr (by rw [hp]; rfl) with ⟨own, hdropped⟩ | ⟨children, htrace, hall⟩
  · rw [hp] at hdropped
    cases hdropped
  · rw [hp] at htrace
    generalize hfinal : Phase.finished (some a) result = phase at htrace
    cases htrace with
    | finished hleads =>
      cases hfinal
      refine ⟨children, _, hleads, rfl, ?_⟩
      rintro j key ⟨s, hs, hhead, -⟩
      exact hall j s hs hhead
    | _ => cases hfinal

variable [DecidableEq κ]

/-- A step leaves every reader on the way of its program. -/
theorem transition (h : Traced family c) (hn : Nested family c)
    (ht : Transition family c d) (hreplies : c.replies <+: d.replies) : Traced family d where
  way {i a s} hs hown := by
    have hk := ht.grows hreplies
    cases hr : c.readers[i]? with
    | none =>
      rw [(ht.born hr hs).entering] at hown
      cases hown
    | some r =>
      obtain ⟨phase, hd, hstays⟩ := ht.reader hr
      obtain rfl := Option.some.inj (hd.symm.trans hs)
      simp only at hown ⊢
      -- the reads issued by the reader are the old ones and those that it has begun to wait for
      have hreads := fun {j : Nat} {s : Reader κ ι} (hs : d.readers[j]? = some s)
        (hhead : s.ancestors.head? = some i) => ht.issued_cases hr hd hs hhead
      rcases hstays with rfl | hturn
      · rcases h.way hr hown with hdropped | ⟨children, htrace, hall⟩
        · exact .inl hdropped
        · refine .inr ⟨children, htrace.mono hk, fun j s hs hhead => ?_⟩
          rcases hreads hs hhead with ⟨q, hq, hold⟩ | ⟨hj, b, program, hworking⟩
          · exact hall j q hq hold
          · rw [hworking] at hj
            cases hj
      · cases hbefore : r.phase.own? with
        | some b =>
          rcases h.turn hr hbefore hturn hk with hdropped | ⟨children, htrace, hall, hnew⟩
          · exact .inl hdropped
          · refine .inr ⟨children, htrace, fun j s hs hhead => ?_⟩
            rcases hreads hs hhead with ⟨q, hq, hold⟩ | ⟨hj, -⟩
            · exact hall j q hq hold
            · exact hnew hj
        | none =>
          rcases hturn.begun with heq | ⟨-, rfl, -⟩
          · rw [heq, hbefore] at hown
            cases hown
          · refine .inr ⟨[], .working .refl, fun j s hs hhead => ?_⟩
            rcases hreads hs hhead with ⟨q, hq, hold⟩ | ⟨hj, -⟩
            · have hmem := List.mem_of_head? hold
              exact absurd hmem (hn.not_mem_ancestors hr hbefore hq)
            · cases hj

theorem run (family : Family κ ι) (events : List (Event κ)) :
    Traced family (run family events) := by
  induction events using List.reverseRecOn with
  | nil => exact .initial
  | append_singleton events event ih =>
    rw [run_concat]
    exact ih.transition (Nested.run family events) (.of_step family _ event)
      (replies_step family _ event)

end Traced

end Config

end CubeClient.Deferred
