import CubeClient.Proofs.Deferred.Coherent
import CubeClient.Proofs.Deferred.Footprint

/-!
# What an attempt sends

An attempt on a collection that is filled from one request sends this request before anything else,
and never again: what follows is sent by the handler of the rows. An attempt that has sent nothing
has just been begun, or was cut short there. What has been sent stays sent, whatever becomes of the
reader.
-/

namespace CubeClient.Deferred

/-- A collection is filled by one request first, and after that by what is in `sends`. -/
def Family.Asks {κ ι : Type} [Named ι] (family : Family κ ι) (key : κ) (message : Message)
    (sends : Message → Prop) : Prop :=
  ∃ next, family.program key = .send message next ∧
    ∀ reply, (next reply).Confined sends fun _ => True

/-- A collection that is filled from rows asks by the message of its call. -/
theorem asks_populate {κ ι : Type} [Named ι] {family : Family κ ι} {key : κ} {label : String}
    {handler : RowHandler κ ι} {message : Message}
    {decode : Reply → Except ClientError (List Xml.Element)} {sends : Message → Prop}
    (hhandler : ∀ row list, (handler row list).Confined sends fun _ => True)
    (hprogram : family.program key = populate label handler (.message message decode)) :
    family.Asks key message sends :=
  ⟨_, hprogram, fun reply => confined_answer hhandler (decode reply)⟩

namespace Config

variable {κ ι : Type} [Named ι] {family : Family κ ι} {c d : Config κ ι} {i j a : Nat} {key : κ}
  {r s : Reader κ ι} {message : Message} {sends : Message → Prop}

/-- The messages that an attempt has sent, in order. -/
def messagesOf (c : Config κ ι) (a : Nat) : List Message :=
  (c.sent.filter (·.attempt == a)).map (·.message)

theorem messagesOf_append {new : List Sent} (h : d.sent = c.sent ++ new) (a : Nat) :
    d.messagesOf a = c.messagesOf a ++ (new.filter (·.attempt == a)).map (·.message) := by
  rw [messagesOf, h, List.filter_append, List.map_append]
  rfl

theorem messagesOf_of_sent (h : d.sent = c.sent) (a : Nat) : d.messagesOf a = c.messagesOf a := by
  rw [messagesOf, h]
  rfl

theorem mem_of_mem_messagesOf {message : Message} (h : message ∈ c.messagesOf a) :
    (⟨a, message⟩ : Sent) ∈ c.sent := by
  obtain ⟨s, hs, rfl⟩ := List.mem_map.mp h
  obtain ⟨hmem, hattempt⟩ := List.mem_filter.mp hs
  obtain rfl : s.attempt = a := eq_of_beq hattempt
  exact hmem

/-- An attempt that has not been begun has sent nothing. -/
theorem Coherent.messagesOf_fresh (h : Coherent c) : c.messagesOf c.attempts.length = [] := by
  rw [List.eq_nil_iff_forall_not_mem]
  intro message hmem
  exact Nat.lt_irrefl _ (h.sent (mem_of_mem_messagesOf hmem))

/-- What a reader of the collection has sent, in the phase that it is in. -/
structure Asked (family : Family κ ι) (key : κ) (message : Message) (sends : Message → Prop)
    (c : Config κ ι) : Prop where
  sent : ∀ {i a : Nat} {r : Reader κ ι}, c.readers[i]? = some r → r.key = key →
    r.phase.own? = some a →
    (c.messagesOf a = [] ∧
      (r.phase = .working a (family.program key) ∨ r.phase = .abandoned (some a))) ∨
    ∃ rest, c.messagesOf a = message :: rest ∧ (∀ m ∈ rest, sends m) ∧
      r.phase.Confined sends fun _ => True

theorem Asked.initial : Asked family key message sends (Config.initial : Config κ ι) where
  sent h := by cases h

/-- An attempt has sent nothing, or the request and after it what the handler sends. -/
theorem Asked.messagesOf_cases (h : Asked family key message sends c) (hc : Coherent c)
    (ha : c.attempts[a]? = some key) :
    c.messagesOf a = [] ∨ ∃ rest, c.messagesOf a = message :: rest ∧ ∀ m ∈ rest, sends m := by
  obtain ⟨i, r, hr, hkey, hown⟩ := hc.guarded.runner.mp ha
  rcases h.sent hr hkey hown with ⟨hnone, -⟩ | ⟨rest, hasked, hrest, -⟩
  · exact Or.inl hnone
  · exact Or.inr ⟨rest, hasked, hrest⟩

variable [DecidableEq κ]

/-- A reader that has not moved has not sent anything. -/
theorem Transition.messagesOf_eq (ht : Transition family c d) (h : Coherent c)
    (hr : c.readers[j]? = some r) (hown : r.phase.own? = some a) (hs : d.readers[j]? = some s)
    (hphase : s.phase = r.phase) : d.messagesOf a = c.messagesOf a := by
  rcases ht.sent with heq | ⟨i, q, b, message, next, hq, hp, hd, heq⟩
  · exact messagesOf_of_sent heq a
  · have hne : b ≠ a := by
      rintro rfl
      have hran : c.Ran i q.key b := ⟨q, hq, rfl, by rw [hp]; rfl⟩
      obtain rfl := h.guarded.single hran ⟨r, hr, rfl, hown⟩
      obtain rfl := Option.some.inj (hq.symm.trans hr)
      obtain rfl := Option.some.inj (hs.symm.trans hd)
      rw [hp] at hphase
      cases hphase
    rw [messagesOf_append heq a, List.filter_cons_of_neg (by simpa using hne), List.filter_nil,
      List.map_nil, List.append_nil]

namespace Asked

/-- A step sends the request of an attempt only as its first message. -/
theorem transition (h : Asked family key message sends c) (hc : Coherent c)
    (hasks : family.Asks key message sends) (ht : Transition family c d) :
    Asked family key message sends d := by
  obtain ⟨first, hprogram, hfirst⟩ := hasks
  refine ⟨fun {i a s} hs hkey hown => ?_⟩
  rcases ht.before hs with ⟨r, hr, hsame, hphase | hturn⟩ | ⟨-, hborn⟩
  · have hown' : r.phase.own? = some a := hphase ▸ hown
    rw [ht.messagesOf_eq hc hr hown' hs hphase, hphase]
    exact h.sent hr (hsame.key ▸ hkey) hown'
  · have hkey' : r.key = key := hsame.key ▸ hkey
    generalize hfinal : s.phase = phase at hturn hown ⊢
    cases hturn with
    | @shift _ _ messages hshift _ hsent =>
      have hown' : r.phase.own? = some a := hshift.active?_eq.2 ▸ hown
      rcases h.sent hr hkey' hown' with ⟨hnone, hworking | hdropped⟩ | ⟨rest, hasked, hrest, hr'⟩
      · -- the first thing that the program does is to send the request
        rw [hprogram] at hworking
        cases hshift with
        | send hp =>
          rw [hworking] at hp
          cases hp
          refine Or.inr ⟨[], ?_, fun m hm => (List.not_mem_nil hm).elim, hfirst⟩
          rw [messagesOf_append hsent, hnone]
          simp
        | _ => rename r.phase = _ => hp; rw [hworking] at hp; cases hp
      · have hlive := hshift.isOver
        rw [hdropped] at hlive
        cases hlive
      · obtain ⟨hconfined, hmessages⟩ := hshift.confined hr'
        refine Or.inr ⟨_, by rw [messagesOf_append hsent, hasked, List.cons_append], ?_, hconfined⟩
        intro m hm
        rcases List.mem_append.mp hm with hm | hm
        · exact hrest m hm
        · obtain ⟨sent, hmem, rfl⟩ := List.mem_map.mp hm
          exact hmessages sent (List.mem_filter.mp hmem).1
    | fill hp hempty hsent =>
      obtain rfl := Option.some.inj hown
      refine Or.inl ⟨?_, Or.inl (by rw [hkey'])⟩
      rw [messagesOf_of_sent hsent, hc.messagesOf_fresh]
    | finish hp _ hsent =>
      rw [messagesOf_of_sent hsent]
      rcases h.sent hr hkey' (by rw [hp]; exact hown) with ⟨-, hworking | hdropped⟩ | hasked
      · rw [hprogram, hp] at hworking
        cases hworking
      · rw [hp] at hdropped
        cases hdropped
      · obtain ⟨rest, hasked, hrest, -⟩ := hasked
        exact Or.inr ⟨rest, hasked, hrest, trivial⟩
    | fail hp hsent =>
      rw [messagesOf_of_sent hsent]
      rcases h.sent hr hkey' (by rw [hp]; exact hown) with ⟨-, hworking | hdropped⟩ | hasked
      · rw [hp] at hworking
        cases hworking
      · rw [hp] at hdropped
        cases hdropped
      · obtain ⟨rest, hasked, hrest, hr'⟩ := hasked
        rw [hp] at hr'
        exact Or.inr ⟨rest, hasked, hrest, hr' _⟩
    | drop hgone _ hsent =>
      rw [messagesOf_of_sent hsent]
      have hown' : r.phase.own? = some a := by
        rw [Phase.own?_eq_active? (isOver_of_isGone hgone)]
        exact hown
      rcases h.sent hr hkey' hown' with ⟨hnone, -⟩ | ⟨rest, hasked, hrest, -⟩
      · exact Or.inl ⟨hnone, Or.inr (congrArg Phase.abandoned hown)⟩
      · exact Or.inr ⟨rest, hasked, hrest, trivial⟩
  · rw [hborn.entering] at hown
    cases hown

theorem run (hasks : family.Asks key message sends) (events : List (Event κ)) :
    Asked family key message sends (run family events) :=
  Coherent.run_induction .initial (fun _ _ hc h ht => h.transition hc hasks ht) events

end Asked

/-! ## What has been sent stays sent -/

/-- Messages are only added to the log. -/
theorem sent_foldl (family : Family κ ι) (c : Config κ ι) (later : List (Event κ)) :
    c.sent <+: (later.foldl (step family) c).sent := by
  have hkeep : ∀ d e : Config κ ι, c.sent <+: d.sent → Transition family d e →
      c.sent <+: e.sent := by
    intro d e hd ht
    rcases ht.sent with heq | ⟨_, _, _, _, _, _, _, _, heq⟩
    · rw [heq]
      exact hd
    · rw [heq]
      exact hd.trans (List.prefix_append _ _)
  exact foldl_induction hkeep later (List.prefix_refl _)

/-- An attempt stays one on its collection. -/
theorem attempt_foldl (family : Family κ ι) (later : List (Event κ))
    (ha : c.attempts[a]? = some key) :
    (later.foldl (step family) c).attempts[a]? = some key :=
  foldl_induction (fun _ _ h ht => ht.attempt h) later ha

theorem messagesOf_foldl (family : Family κ ι) (c : Config κ ι) (later : List (Event κ)) (a : Nat) :
    c.messagesOf a <+: (later.foldl (step family) c).messagesOf a := by
  obtain ⟨new, hnew⟩ := sent_foldl family c later
  rw [messagesOf_append hnew.symm]
  exact List.prefix_append _ _

end Config

end CubeClient.Deferred
