import CubeClient.Proofs.Deferred.Answers
import CubeClient.Proofs.Deferred.Requests

/-!
# What becomes of the reply to a request

A reader that fills its collection sends one request first and goes on from the reply to it. If the
reply settles the outcome at once, as a fault does, the reader answers that outcome and nothing else
(`Heard`), and two turns after the reply has arrived it has done so (`Settling.foldl`). Replies that
have arrived stay.
-/

namespace CubeClient.Deferred

/-- How many turns a reader needs to answer once the outcome of its attempt is settled. -/
def Phase.toGo {κ ι : Type} [Named ι] : Phase κ ι → Nat
  | .awaitingReply _ _ _ => 2
  | .working _ _ => 1
  | _ => 0

namespace Config

variable {κ ι : Type} [Named ι] {family : Family κ ι} {c d : Config κ ι} {i a q : Nat} {key : κ}
  {r s : Reader κ ι} {message : Message} {next : Reply → Population κ ι} {reply : Reply}
  {outcome : Except ClientError (NamedList ι)}

/-! ## Replies that have arrived -/

/-- A reply that has arrived stays the reply to its message. -/
theorem reply?_of_prefix (h : c.replies <+: d.replies) (hreply : c.reply? q = some reply) :
    d.reply? q = some reply := by
  obtain ⟨new, hnew⟩ := h
  obtain ⟨entry, hentry, rfl⟩ := Option.map_eq_some_iff.mp hreply
  rw [reply?, ← hnew, List.find?_append, hentry]
  rfl

section Steps

variable [DecidableEq κ]

theorem replies_release (c : Config κ ι) (i : Nat) (r : Reader κ ι) :
    (c.release i r).replies = c.replies := by
  unfold release
  split <;> rfl

theorem replies_abandon (c : Config κ ι) (roots : List Nat) :
    (c.abandon roots).replies = c.replies := by
  rw [abandon_eq]
  generalize c.readers.zipIdx = entries
  induction entries generalizing c with
  | nil => rfl
  | cons entry entries ih =>
    rw [List.foldl_cons, ih, releaseGone]
    split
    · exact replies_release c entry.2 entry.1
    · rfl

theorem replies_work (c : Config κ ι) (i : Nat) (r : Reader κ ι) (a : Nat)
    (program : Population κ ι) : (c.work i r a program).replies = c.replies := by
  cases program <;> rfl

theorem replies_enter (family : Family κ ι) (c : Config κ ι) (i : Nat) (r : Reader κ ι) :
    (c.enter family i r).replies = c.replies := by
  simp only [enter]
  split
  · rfl
  · rfl
  · split <;> rfl
  · rfl

theorem replies_advance (family : Family κ ι) (c : Config κ ι) (i : Nat) :
    (c.advance family i).replies = c.replies := by
  unfold advance
  split
  · rfl
  · split
    · exact replies_enter family c i _
    · split <;> rfl
    · exact replies_work c i _ _ _
    · split <;> rfl
    · split <;> rfl
    · split
      · rfl
      · exact replies_abandon c _
      · rfl
    · rfl
    · rfl

/-- Replies are only added. -/
theorem replies_step (family : Family κ ι) (c : Config κ ι) (event : Event κ) :
    c.replies <+: (c.step family event).replies := by
  cases event with
  | start key => exact List.prefix_refl _
  | advance i => exact (replies_advance family c i).symm ▸ List.prefix_refl _
  | deliver request reply =>
    simp only [step, deliver]
    split
    · exact List.prefix_append _ _
    · exact List.prefix_refl _
  | giveUp i =>
    simp only [step, giveUp]
    split
    · split
      · exact (replies_abandon c [_]).symm ▸ List.prefix_refl _
      · exact List.prefix_refl _
    · exact List.prefix_refl _
  | disown key => exact List.prefix_refl _

end Steps

/-! ## The request of an attempt -/

/-- A message in the log is the first one of an attempt. -/
structure IsRequest (c : Config κ ι) (a q : Nat) (message : Message) : Prop where
  sent : c.sent[q]? = some ⟨a, message⟩
  first : ∀ (p : Nat) (s : Sent), p < q → c.sent[p]? = some s → s.attempt ≠ a

namespace IsRequest

/-- An attempt sends its request once. -/
theorem unique {p : Nat} {other : Message} (h : c.IsRequest a q message)
    (hother : c.IsRequest a p other) : p = q := by
  rcases Nat.lt_trichotomy p q with hlt | heq | hgt
  · exact absurd rfl (h.first p _ hlt hother.sent)
  · exact heq
  · exact absurd rfl (hother.first q _ hgt h.sent)

theorem mono (h : c.IsRequest a q message) (hsent : c.sent <+: d.sent) :
    d.IsRequest a q message := by
  obtain ⟨new, hnew⟩ := hsent
  have hq : q < c.sent.length := (List.getElem?_eq_some_iff.mp h.sent).1
  refine ⟨?_, ?_⟩
  · rw [← hnew, List.getElem?_append_left hq]
    exact h.sent
  · intro p s hp hs
    rw [← hnew, List.getElem?_append_left (Nat.lt_trans hp hq)] at hs
    exact h.first p s hp hs

/-- What an attempt sends when it has sent nothing is its request. -/
theorem of_none (hnone : c.messagesOf a = []) (hsent : d.sent = c.sent ++ [⟨a, message⟩]) :
    d.IsRequest a c.sent.length message := by
  refine ⟨by rw [hsent, List.getElem?_concat_length], ?_⟩
  intro p s hp hs hattempt
  rw [hsent, List.getElem?_append_left hp] at hs
  subst hattempt
  have hmem : s.message ∈ c.messagesOf s.attempt := List.mem_map.mpr
    ⟨s, List.mem_filter.mpr ⟨List.mem_of_getElem? hs, beq_self_eq_true _⟩, rfl⟩
  rw [hnone] at hmem
  cases hmem

theorem messagesOf_ne_nil (h : c.IsRequest a q message) : c.messagesOf a ≠ [] := by
  have hmem : message ∈ c.messagesOf a := List.mem_map.mpr
    ⟨_, List.mem_filter.mpr ⟨List.mem_of_getElem? h.sent, beq_self_eq_true _⟩, rfl⟩
  exact List.ne_nil_of_mem hmem

end IsRequest

/-! ## From the reply to the answer -/

/-- A reader has the outcome of its attempt at hand, or has answered it. -/
def Heads (a : Nat) (outcome : Except ClientError (NamedList ι)) (phase : Phase κ ι) : Prop :=
  phase = .working a (.done outcome) ∨
    phase = .finished (some a) (outcome.map fun items => ⟨a, items⟩)

/-- What a reader of the collection has made of the reply to its request. -/
structure Heard (key : κ) (message : Message) (next : Reply → Population κ ι) (c : Config κ ι) :
    Prop where
  reply : ∀ {i a : Nat} {r : Reader κ ι}, c.readers[i]? = some r → r.key = key →
    r.phase.own? = some a →
    r.phase = .abandoned (some a) ∨
    (r.phase = .working a (.send message next) ∧ c.messagesOf a = []) ∨
    ∃ q, c.IsRequest a q message ∧
      (r.phase = .awaitingReply a q next ∨
        ∃ reply, c.reply? q = some reply ∧
          ∀ outcome, next reply = .done outcome → Heads a outcome r.phase)

theorem Heard.initial : Heard key message next (Config.initial : Config κ ι) where
  reply h := by cases h

/-- Only an end is left for a reader that has the outcome at hand, and that is no shift. -/
theorem Shift.heads {phase : Phase κ ι} {new : List (Reader κ ι)} {messages : List Sent}
    (h : Shift family c i r phase new messages) : ¬ Heads a outcome r.phase := by
  rintro (hr | hr)
  · cases h <;> rename r.phase = _ => hp <;> rw [hr] at hp <;> cases hp
  · have hlive := h.isOver
    rw [hr] at hlive
    cases hlive

/-- A reader that has its outcome at hand answers it or is dropped. -/
theorem Turn.heads {phase : Phase κ ι} (h : Turn family c d i r phase)
    (hr : Heads a outcome r.phase) : Heads a outcome phase ∨ phase = .abandoned (some a) := by
  cases h with
  | shift hshift => exact absurd hr hshift.heads
  | fill hp => rcases hr with hr | hr <;> rw [hp] at hr <;> cases hr
  | finish hp =>
    rcases hr with hr | hr
    · rw [hp] at hr
      cases hr
      exact .inl (.inr rfl)
    · rw [hp] at hr
      cases hr
  | fail hp => rcases hr with hr | hr <;> rw [hp] at hr <;> cases hr
  | drop hgone =>
    rcases hr with hr | hr
    · rw [hr]
      exact .inr rfl
    · have hlive := isOver_of_isGone hgone
      rw [hr] at hlive
      cases hlive

/-- The first turn of an attempt sends its request. -/
theorem Turn.of_send {phase : Phase κ ι} (h : Turn family c d i r phase)
    (hr : r.phase = .working a (.send message next)) :
    (phase = .awaitingReply a c.sent.length next ∧ d.sent = c.sent ++ [⟨a, message⟩]) ∨
      phase = .abandoned (some a) := by
  cases h with
  | shift hshift _ hsent =>
    cases hshift with
    | send hp =>
      rw [hr] at hp
      cases hp
      exact .inl ⟨rfl, hsent⟩
    | _ => rename r.phase = _ => hp; rw [hr] at hp; cases hp
  | fill hp => rw [hr] at hp; cases hp
  | finish hp => rw [hr] at hp; cases hp
  | fail hp => rw [hr] at hp; cases hp
  | drop => exact .inr (by rw [hr]; rfl)

/-- A reader that waits for a reply goes on from it. -/
theorem Turn.of_awaitingReply {phase : Phase κ ι} (h : Turn family c d i r phase)
    (hr : r.phase = .awaitingReply a q next) :
    (∃ reply, c.reply? q = some reply ∧ phase = .working a (next reply)) ∨
      phase = .abandoned (some a) := by
  cases h with
  | shift hshift =>
    cases hshift with
    | reply hp hreply =>
      rw [hr] at hp
      cases hp
      exact .inl ⟨_, hreply, rfl⟩
    | _ => rename r.phase = _ => hp; rw [hr] at hp; cases hp
  | fill hp => rw [hr] at hp; cases hp
  | finish hp => rw [hr] at hp; cases hp
  | fail hp => rw [hr] at hp; cases hp
  | drop => exact .inr (by rw [hr]; rfl)

/-- Whoever has answered from an attempt of its own has had the reply to its request, and has
answered the outcome that this settles. -/
theorem Heard.of_finished (h : Heard key message next c) (hr : c.readers[i]? = some r)
    (hkey : r.key = key) {result : ReadResult ι} (hp : r.phase = .finished (some a) result) :
    ∃ q reply, c.IsRequest a q message ∧ c.reply? q = some reply ∧
      ∀ outcome, next reply = .done outcome → result = outcome.map fun items => ⟨a, items⟩ := by
  rcases h.reply hr hkey (by rw [hp]; rfl) with
    hdropped | ⟨hworking, -⟩ | ⟨q, hq, hwaits | ⟨reply, hreply, hheads⟩⟩
  · rw [hp] at hdropped
    cases hdropped
  · rw [hp] at hworking
    cases hworking
  · rw [hp] at hwaits
    cases hwaits
  · refine ⟨q, reply, hq, hreply, fun outcome houtcome => ?_⟩
    rcases hheads outcome houtcome with hworking | hfinished
    · rw [hp] at hworking
      cases hworking
    · rw [hp] at hfinished
      cases hfinished
      rfl

/-- The outcome of a reader's attempt is settled: it has been dropped, or it has the outcome at
hand, or it waits for the reply that has arrived. -/
def Settling (c : Config κ ι) (a : Nat) (outcome : Except ClientError (NamedList ι))
    (phase : Phase κ ι) : Prop :=
  phase = .abandoned (some a) ∨ Heads a outcome phase ∨
    ∃ q next reply, phase = .awaitingReply a q next ∧ c.reply? q = some reply ∧
      next reply = .done outcome

namespace Settling

/-- More replies do not unsettle a reader. -/
theorem mono {phase : Phase κ ι} (h : Settling c a outcome phase)
    (hreplies : c.replies <+: d.replies) : Settling d a outcome phase := by
  rcases h with hdropped | hheads | ⟨q, next, reply, hwaits, hreply, houtcome⟩
  · exact .inl hdropped
  · exact .inr (.inl hheads)
  · exact .inr (.inr ⟨q, next, reply, hwaits, reply?_of_prefix hreplies hreply, houtcome⟩)

/-- A turn takes a reader that has its reply nearer to its end, and to no other one. -/
theorem turn {phase : Phase κ ι} (h : Settling c a outcome r.phase)
    (ht : Turn family c d i r phase) :
    Settling d a outcome phase ∧ phase.toGo ≤ r.phase.toGo := by
  have hgone : phase = .abandoned (some a) →
      Settling d a outcome phase ∧ phase.toGo ≤ r.phase.toGo := by
    rintro rfl
    exact ⟨.inl rfl, Nat.zero_le _⟩
  rcases h with hdropped | hheads | ⟨q, next, reply, hwaits, hreply, houtcome⟩
  · have hlive := ht.isOver
    rw [hdropped] at hlive
    cases hlive
  · rcases ht.heads hheads with h | h
    · refine ⟨.inr (.inl h), ?_⟩
      have hworking : r.phase = .working a (.done outcome) := by
        refine hheads.resolve_right fun hfinished => ?_
        have hlive := ht.isOver
        rw [hfinished] at hlive
        cases hlive
      rw [hworking]
      rcases h with rfl | rfl
      · exact Nat.le_refl 1
      · exact Nat.zero_le 1
    · exact hgone h
  · rcases ht.of_awaitingReply hwaits with ⟨other, hother, rfl⟩ | h
    · obtain rfl := Option.some.inj (hreply.symm.trans hother)
      rw [hwaits, houtcome]
      exact ⟨.inr (.inl (.inl rfl)), Nat.le_succ 1⟩
    · exact hgone h

/-- A reader with nothing to go has ended with the outcome, or was given up. -/
theorem eq_of_toGo {phase : Phase κ ι} (h : Settling c a outcome phase) (hnone : phase.toGo = 0) :
    phase = .finished (some a) (outcome.map fun items => ⟨a, items⟩) ∨
      phase = .abandoned (some a) := by
  rcases h with hdropped | (rfl | hfinished) | ⟨q, next, reply, rfl, -, -⟩
  · exact .inr hdropped
  · cases hnone
  · exact .inl hfinished
  · cases hnone

end Settling

/-- When the reply has arrived, the outcome of the attempt is settled. -/
theorem Heard.settling (h : Heard key message next c) (hr : c.readers[i]? = some r)
    (hkey : r.key = key) (hown : r.phase.own? = some a) (hq : c.IsRequest a q message)
    (hreply : c.reply? q = some reply) (houtcome : next reply = .done outcome) :
    Settling c a outcome r.phase := by
  rcases h.reply hr hkey hown with
    hdropped | ⟨-, hnone⟩ | ⟨p, hp, hwaits | ⟨first, hfirst, hheads⟩⟩
  · exact .inl hdropped
  · exact absurd hnone hq.messagesOf_ne_nil
  · obtain rfl := hq.unique hp
    exact .inr (.inr ⟨p, next, reply, hwaits, hreply, houtcome⟩)
  · obtain rfl := hq.unique hp
    obtain rfl := Option.some.inj (hreply.symm.trans hfirst)
    exact .inr (.inl (hheads outcome houtcome))

/-! ## Along a run -/

variable [DecidableEq κ]

theorem Transition.sent_prefix (ht : Transition family c d) : c.sent <+: d.sent := by
  rcases ht.sent with heq | ⟨_, _, _, _, _, _, _, _, heq⟩
  · exact heq.symm ▸ List.prefix_refl _
  · rw [heq]
    exact List.prefix_append _ _

namespace Heard

/-- A step leaves it true that attempts go on with the reply to their request. -/
theorem transition (h : Heard key message next c) (hc : Coherent c)
    (hprogram : family.program key = .send message next) (ht : Transition family c d)
    (hreplies : c.replies <+: d.replies) : Heard key message next d := by
  refine ⟨fun {i a s} hs hkey hown => ?_⟩
  rcases ht.before hs with ⟨r, hr, hsame, hphase | hturn⟩ | ⟨-, hborn⟩
  · have hown' : r.phase.own? = some a := hphase ▸ hown
    rw [hphase]
    rcases h.reply hr (hsame.key ▸ hkey) hown' with
      hdropped | ⟨hworking, hnone⟩ | ⟨q, hq, hwaits | ⟨reply, hreply, hheads⟩⟩
    · exact .inl hdropped
    · exact .inr (.inl ⟨hworking, (ht.messagesOf_eq hc hr hown' hs hphase).trans hnone⟩)
    · exact .inr (.inr ⟨q, hq.mono ht.sent_prefix, .inl hwaits⟩)
    · exact .inr (.inr
        ⟨q, hq.mono ht.sent_prefix, .inr ⟨reply, reply?_of_prefix hreplies hreply, hheads⟩⟩)
  · -- The turn was the reader's own: it went on with its attempt, or it has just begun one.
    have hkey' : r.key = key := hsame.key ▸ hkey
    rcases hturn.begun with hown' | ⟨-, hbegun, hsent⟩
    · rw [hown'] at hown
      rcases h.reply hr hkey' hown with
        hdropped | ⟨hworking, hnone⟩ | ⟨q, hq, hwaits | ⟨reply, hreply, hheads⟩⟩
      · have hlive := hturn.isOver
        rw [hdropped] at hlive
        cases hlive
      · rcases hturn.of_send hworking with ⟨hphase, hsent⟩ | hdropped
        · exact .inr (.inr ⟨_, .of_none hnone hsent, .inl hphase⟩)
        · exact .inl hdropped
      · rcases hturn.of_awaitingReply hwaits with ⟨reply, hreply, hphase⟩ | hdropped
        · refine .inr (.inr
            ⟨q, hq.mono ht.sent_prefix, .inr ⟨reply, reply?_of_prefix hreplies hreply, ?_⟩⟩)
          intro outcome houtcome
          rw [hphase, houtcome]
          exact .inl rfl
        · exact .inl hdropped
      · by_cases hdropped : s.phase = .abandoned (some a)
        · exact .inl hdropped
        · refine .inr (.inr
            ⟨q, hq.mono ht.sent_prefix, .inr ⟨reply, reply?_of_prefix hreplies hreply, ?_⟩⟩)
          intro outcome houtcome
          exact (hturn.heads (hheads outcome houtcome)).resolve_right hdropped
    · rw [hbegun] at hown ⊢
      obtain rfl := Option.some.inj hown
      refine .inr (.inl ⟨by rw [hkey', hprogram], ?_⟩)
      rw [messagesOf_of_sent hsent, hc.messagesOf_fresh]
  · rw [hborn.entering] at hown
    cases hown

theorem run (hprogram : family.program key = .send message next) (events : List (Event κ)) :
    Heard key message next (run family events) := by
  induction events using List.reverseRecOn with
  | nil => exact .initial
  | append_singleton events event ih =>
    rw [run_concat]
    exact ih.transition (Coherent.run family events) hprogram (.of_step family _ event)
      (replies_step family _ event)

end Heard

/-- A turn of a reader whose outcome is settled brings it nearer to the answer. -/
theorem Settling.advance (h : Settling c a outcome r.phase) (hr : c.readers[i]? = some r)
    (family : Family κ ι) :
    ∃ phase, (c.advance family i).readers[i]? = some { r with phase } ∧
      phase.toGo = r.phase.toGo - 1 := by
  rcases h with hp | (hp | hp) | ⟨q, next, reply, hp, hreply, houtcome⟩
  · have he : c.advance family i = c := by simp only [Config.advance, hr, hp]
    exact ⟨r.phase, by rw [he, hr], by rw [hp]; rfl⟩
  · have he : c.advance family i = c.finish i r a outcome := by
      simp only [Config.advance, hr, hp, work]
    refine ⟨.finished (some a) (outcome.map fun items => ⟨a, items⟩), ?_, by rw [hp]; rfl⟩
    rw [he, (finish_eq c i r a outcome).1, getElem?_setPhase_self hr]
  · have he : c.advance family i = c := by simp only [Config.advance, hr, hp]
    exact ⟨r.phase, by rw [he, hr], by rw [hp]; rfl⟩
  · have he : c.advance family i = c.setPhase i (.working a (next reply)) := by
      simp only [Config.advance, hr, hp, hreply]
    exact ⟨_, by rw [he, getElem?_setPhase_self hr], by rw [hp]; rfl⟩

/-- Once its outcome is settled, a reader answers it within two turns or is dropped. -/
theorem Settling.foldl (h : Settling c a outcome r.phase) (hr : c.readers[i]? = some r)
    (family : Family κ ι) {later : List (Event κ)} (hturns : 2 ≤ turns i later) :
    ∃ s, (later.foldl (step family) c).readers[i]? = some s ∧
      (s.phase = .finished (some a) (outcome.map fun items => ⟨a, items⟩) ∨
        s.phase = .abandoned (some a)) := by
  have hstep : ∀ {c : Config κ ι} {r : Reader κ ι} (event : Event κ),
      Settling c a outcome r.phase → c.readers[i]? = some r →
      ∃ s, (c.step family event).readers[i]? = some s ∧
        Settling (c.step family event) a outcome s.phase ∧
        s.phase.toGo ≤ r.phase.toGo - turns i [event] := by
    intro c r event h hr
    obtain ⟨phase, hphase, hmoved⟩ := (Transition.of_step family c event).reader hr
    have hkept : Settling (c.step family event) a outcome phase ∧ phase.toGo ≤ r.phase.toGo := by
      rcases hmoved with rfl | hturn
      · exact ⟨h.mono (replies_step family c event), Nat.le_refl _⟩
      · exact h.turn hturn
    refine ⟨_, hphase, hkept.1, ?_⟩
    rcases Event.isTurn_cases i event with rfl | hnone
    · obtain ⟨phase', hphase', htoGo⟩ := h.advance hr family
      have heq : phase = phase' := by
        have := hphase.symm.trans hphase'
        exact congrArg Reader.phase (Option.some.inj this)
      rw [heq, htoGo]
      simp [turns, Event.isTurn]
    · rw [hnone]
      exact hkept.2
  have hlimit : r.phase.toGo ≤ 2 := by
    unfold Phase.toGo
    split <;> decide
  obtain ⟨s, hs, hsettling, hle⟩ := turns_foldl hstep later h hr
  exact ⟨s, hs, hsettling.eq_of_toGo (by omega)⟩

end Config

end CubeClient.Deferred
