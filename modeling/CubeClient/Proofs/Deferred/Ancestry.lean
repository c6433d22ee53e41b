import CubeClient.Proofs.Deferred.Transition
import CubeClient.Proofs.Failure

/-!
# Readers and the readers they read for

A read that is issued while a collection is being filled belongs to the reader that fills it. As
long as it is not over, that reader waits for it (`Linked.parent`), so the collections inside whose
populations a read was issued are being filled all along (`Linked.exists_populating`). This is why
refusing a reader whose collection stands in `within` refuses it for a reason.
-/

namespace CubeClient.Deferred

/-- Whether the next thing that a program does is to read a collection. -/
def Program.ReadsNow {κ ι α : Type} [Named ι] (key : κ) : Program κ ι α → Prop
  | .read key' _ => key' = key
  | .readAll keys _ => key ∈ keys
  | _ => False

namespace Config

variable {κ ι : Type} [Named ι]

/-! ## What a step does to one reader -/

/-- Two readers that are one read at different times. -/
structure Same (r s : Reader κ ι) : Prop where
  key : s.key = r.key
  ancestors : s.ancestors = r.ancestors
  within : s.within = r.within

/-- How a step gives up readers: reads from outside, or reads whose reader does not wait for them
any more. Whoever still waits for readers is not taken along. -/
structure Cut (c d : Config κ ι) (roots : List Nat) : Prop where
  root : ∀ {k : Nat}, k ∈ roots →
    (∃ q : Reader κ ι, c.readers[k]? = some q ∧ q.ancestors = []) ∨
      ∃ (p : Nat) (q s : Reader κ ι), c.readers[p]? = some q ∧ k ∈ q.phase.awaited ∧
        d.readers[p]? = some s ∧ s.phase.awaited = []
  kept : ∀ {k : Nat} {s : Reader κ ι}, d.readers[k]? = some s → s.phase.awaited ≠ [] →
    isUnder roots k s = false

/-- How a step from one configuration to another can change the phase of a reader. -/
inductive Turn (family : Family κ ι) (c d : Config κ ι) (i : Nat) (r : Reader κ ι) :
    Phase κ ι → Prop
  | shift {phase : Phase κ ι} {new : List (Reader κ ι)} {messages : List Sent}
      (h : Shift family c i r phase new messages)
      (hnew : ∀ n s, new[n]? = some s → d.readers[c.readers.length + n]? = some s)
      (hsent : d.sent = c.sent ++ messages) : Turn family c d i r phase
  | fill (hp : r.phase = .entering) (hc : c.cells r.key = ⟨.empty, none⟩)
      (hsent : d.sent = c.sent) :
      Turn family c d i r (.working c.attempts.length (family.program r.key))
  | finish {a : Nat} {result : Except ClientError (NamedList ι)}
      (hp : r.phase = .working a (.done result))
      (hcell : d.cells r.key = c.cellAfter r.key a result) (hsent : d.sent = c.sent) :
      Turn family c d i r (.finished (some a) (result.map fun items => ⟨a, items⟩))
  | fail {a : Nat} {children : List Nat}
      {next : Except ClientError (List (Listing ι)) → Population κ ι} {error : ClientError}
      (hp : r.phase = .awaitingReads a children next) (hsent : d.sent = c.sent)
      (h : c.joined? children = some (.error error)) :
      Turn family c d i r (.working a (next (.error error)))
  | drop {roots : List Nat} (h : isGone roots i r = true) (hcut : Cut c d roots)
      (hsent : d.sent = c.sent) : Turn family c d i r (.abandoned r.phase.active?)

/-- Where a reader that was not there before comes from. -/
inductive Born (c d : Config κ ι) (j : Nat) (s : Reader κ ι) : Prop
  | outside (hp : s.phase = .entering) (ha : s.ancestors = []) (hw : s.within = [])
  | inside {i a : Nat} {r : Reader κ ι} {program : Population κ ι} {phase : Phase κ ι}
      (hp : s.phase = .entering) (hr : c.readers[i]? = some r)
      (hprogram : r.phase = .working a program) (hreads : program.ReadsNow s.key)
      (ha : s.ancestors = i :: r.ancestors) (hw : s.within = r.key :: r.within)
      (hd : d.readers[i]? = some { r with phase }) (hj : j ∈ phase.awaited)

variable {family : Family κ ι} {c d : Config κ ι} {i j : Nat} {r s : Reader κ ι}

theorem Born.entering (h : Born c d j s) : s.phase = .entering := by
  cases h with
  | outside hp => exact hp
  | inside hp => exact hp

theorem Shift.isOver {phase : Phase κ ι} {new : List (Reader κ ι)} {messages : List Sent}
    (h : Shift family c i r phase new messages) : r.phase.isOver = false := by
  cases h <;> rename r.phase = _ => hp <;> rw [hp] <;> rfl

/-- Only a reader that is not over has a turn. -/
theorem Turn.isOver {phase : Phase κ ι} (h : Turn family c d i r phase) :
    r.phase.isOver = false := by
  cases h with
  | shift h => exact h.isOver
  | fill hp => rw [hp]; rfl
  | finish hp => rw [hp]; rfl
  | fail hp => rw [hp]; rfl
  | drop h => exact isOver_of_isGone h

/-- Giving up readers is a turn of each of them, and leaves the others as they are. -/
theorem Cut.turn {roots : List Nat} (h : Cut c d roots) (hsent : d.sent = c.sent)
    (family : Family κ ι) (j : Nat) (r : Reader κ ι) :
    ∃ phase, dropped roots j r = { r with phase } ∧
      (phase = r.phase ∨ Turn family c d j r phase) := by
  by_cases hg : isGone roots j r = true
  · exact ⟨_, dropped_of_isGone hg, Or.inr (.drop hg h hsent)⟩
  · exact ⟨_, dropped_of_not_isGone (Bool.eq_false_iff.mpr hg), Or.inl rfl⟩

/-- Whoever is left when readers are given up was not taken along. -/
theorem not_isUnder_of_abandon [DecidableEq κ] {roots : List Nat}
    (hs : (c.abandon roots).readers[i]? = some s) (hlive : s.phase.isOver = false) :
    c.readers[i]? = some s ∧ isUnder roots i s = false := by
  obtain ⟨r, hr, rfl⟩ := reader_of_abandon hs
  cases hg : isGone roots i r with
  | true =>
    rw [dropped_of_isGone hg] at hlive
    cases hlive
  | false =>
    rw [dropped_of_not_isGone hg] at hlive ⊢
    exact ⟨hr, by simpa [isGone, hlive] using hg⟩

section Steps

variable [DecidableEq κ]

/-- Whoever issued a read from outside may give it up. -/
theorem Cut.giveUp (hr : c.readers[i]? = some r) (ha : r.ancestors = []) :
    Cut c (c.abandon [i]) [i] where
  root hk := Or.inl ⟨r, by rw [List.mem_singleton.mp hk, hr], ha⟩
  kept hs hawaits := (not_isUnder_of_abandon hs (Phase.isOver_of_awaited hawaits)).2

/-- When one of several reads side by side has failed, nobody waits for the others any more. -/
theorem Cut.fail (hr : c.readers[i]? = some r) {children : List Nat}
    (hchildren : r.phase.awaited = children) {phase : Phase κ ι} (hphase : phase.awaited = []) :
    Cut c ((c.abandon children).setPhase i phase) children := by
  have hq : (c.abandon children).readers[i]? = some (dropped children i r) := by
    rw [getElem?_abandon, hr, Option.map_some]
  refine ⟨fun hk => Or.inr ⟨i, r, _, hr, hchildren ▸ hk, getElem?_setPhase_self hq _, hphase⟩, ?_⟩
  intro k s hs hawaits
  by_cases hik : i = k
  · subst hik
    rw [getElem?_setPhase_self hq] at hs
    obtain rfl := Option.some.inj hs
    exact absurd hphase hawaits
  · rw [getElem?_setPhase_ne hik] at hs
    exact (not_isUnder_of_abandon hs (Phase.isOver_of_awaited hawaits)).2

namespace Transition

/-- A reader is never lost, and a step either leaves it alone or is its turn. -/
theorem reader (h : Transition family c d) (hr : c.readers[j]? = some r) :
    ∃ phase, d.readers[j]? = some { r with phase } ∧
      (phase = r.phase ∨ Turn family c d j r phase) := by
  have hj : j < c.readers.length := (List.getElem?_eq_some_iff.mp hr).1
  cases h with
  | outside _ hreaders => exact ⟨_, by rw [hreaders]; exact hr, Or.inl rfl⟩
  | start key =>
    refine ⟨_, ?_, Or.inl rfl⟩
    simp only [Config.start]
    rw [List.getElem?_append_left hj, hr]
  | @shift i r' phase new messages hr' h =>
    by_cases hij : i = j
    · subst hij
      obtain rfl : r' = r := Option.some.inj (hr'.symm.trans hr)
      refine ⟨_, getElem?_shifted_self hr _ _ _, Or.inr (.shift h (fun n s hs => ?_) rfl)⟩
      rw [getElem?_shifted_new (Nat.le_add_right _ n), Nat.add_sub_cancel_left, hs]
    · exact ⟨_, by rw [getElem?_shifted_ne hij hj, hr], Or.inl rfl⟩
  | @fill i r' hr' hp hc =>
    rw [(enter_of_empty hc).1]
    by_cases hij : i = j
    · subst hij
      obtain rfl : r' = r := Option.some.inj (hr'.symm.trans hr)
      exact ⟨_, getElem?_setPhase_self hr _, Or.inr (.fill hp hc (enter_of_empty hc).2.2.2)⟩
    · exact ⟨_, by rw [getElem?_setPhase_ne hij, hr], Or.inl rfl⟩
  | @finish i r' a result hr' hp =>
    rw [(finish_eq c i r' a result).1]
    by_cases hij : i = j
    · subst hij
      obtain rfl : r' = r := Option.some.inj (hr'.symm.trans hr)
      have hcell : (c.finish i r' a result).cells r'.key = c.cellAfter r'.key a result := by
        rw [cells_finish, if_pos rfl]
      have hsent := (finish_eq c i r' a result).2.2.2
      exact ⟨_, getElem?_setPhase_self hr _, Or.inr (.finish hp hcell hsent)⟩
    · exact ⟨_, by rw [getElem?_setPhase_ne hij, hr], Or.inl rfl⟩
  | @fail i r' a children next error hr' hp hjoined =>
    have hkept : (c.abandon children).readers[j]? = some (dropped children j r) := by
      rw [getElem?_abandon, hr]
      rfl
    have hcut : Cut c ((c.abandon children).setPhase i (.working a (next (.error error))))
        children := .fail hr' (by rw [hp]; rfl) rfl
    obtain ⟨phase, hphase, hturn⟩ := hcut.turn (sent_abandon c children) family j r
    by_cases hij : i = j
    · subst hij
      obtain rfl : r' = r := Option.some.inj (hr'.symm.trans hr)
      refine ⟨.working a (next (.error error)), ?_,
        Or.inr (.fail hp (sent_abandon c children) hjoined)⟩
      rw [getElem?_setPhase_self hkept, hphase]
    · refine ⟨phase, ?_, hturn⟩
      rw [getElem?_setPhase_ne hij, hkept, hphase]
  | @giveUp i r' hr' ha =>
    obtain ⟨phase, hphase, hturn⟩ := (Cut.giveUp hr' ha).turn (sent_abandon c [i]) family j r
    refine ⟨phase, ?_, hturn⟩
    rw [getElem?_abandon, hr, Option.map_some, hphase]

/-- A reader that was not there before has just been started. -/
theorem born (h : Transition family c d) (hn : c.readers[j]? = none)
    (hs : d.readers[j]? = some s) : Born c d j s := by
  have hj : c.readers.length ≤ j := List.getElem?_eq_none_iff.mp hn
  cases h with
  | outside _ hreaders =>
    rw [hreaders, hn] at hs
    cases hs
  | start key =>
    simp only [Config.start] at hs
    rw [List.getElem?_append_right hj] at hs
    have hmem := List.mem_of_getElem? hs
    rw [List.mem_singleton] at hmem
    subst hmem
    exact .outside rfl rfl rfl
  | @shift i r phase new messages hr h =>
    rw [getElem?_shifted_new hj] at hs
    have hd := getElem?_shifted_self hr phase new messages
    cases h with
    | read hp =>
      obtain ⟨ha, hw, hentering, hkey⟩ := getElem?_childReaders hs
      have hlt : j - c.readers.length < [_].length := (List.getElem?_eq_some_iff.mp hkey).1
      rw [List.length_singleton] at hlt
      obtain rfl : j = c.readers.length := by omega
      rw [Nat.sub_self] at hkey
      exact .inside hentering hr hp (Option.some.inj hkey) ha hw hd (List.mem_singleton.mpr rfl)
    | readAll hp =>
      obtain ⟨ha, hw, hentering, hkey⟩ := getElem?_childReaders hs
      have hlt := (List.getElem?_eq_some_iff.mp hkey).1
      refine .inside hentering hr hp (List.mem_of_getElem? hkey) ha hw hd
        (List.mem_map.mpr ⟨_, List.mem_range.mpr hlt, ?_⟩)
      omega
    | _ => cases hs
  | @fill i r _ _ hc =>
    rw [(enter_of_empty hc).1, List.getElem?_eq_none (by simpa using hj)] at hs
    cases hs
  | @finish i r a result _ _ =>
    rw [(finish_eq c i r a result).1, List.getElem?_eq_none (by simpa using hj)] at hs
    cases hs
  | @fail i r a children next error _ _ _ =>
    have hlen : (c.abandon children).readers[j]? = none := by
      rw [getElem?_abandon, hn]
      rfl
    rw [List.getElem?_eq_none (by simpa using hlen)] at hs
    cases hs
  | giveUp _ _ =>
    rw [getElem?_abandon, hn] at hs
    cases hs

/-- A reader after a step was there before, or has just been started. -/
theorem before (h : Transition family c d) (hs : d.readers[j]? = some s) :
    (∃ r, c.readers[j]? = some r ∧ Same r s ∧
      (s.phase = r.phase ∨ Turn family c d j r s.phase)) ∨
    (c.readers[j]? = none ∧ Born c d j s) := by
  cases hr : c.readers[j]? with
  | none => exact Or.inr ⟨rfl, h.born hr hs⟩
  | some r =>
    obtain ⟨phase, hphase, hturn⟩ := h.reader hr
    obtain rfl : s = { r with phase } := Option.some.inj (hs.symm.trans hphase)
    exact Or.inl ⟨r, rfl, ⟨rfl, rfl, rfl⟩, hturn⟩

end Transition

end Steps

/-- Whom a reader waits for after a step it waited for before, or it has just started them. -/
theorem Turn.awaited {phase : Phase κ ι} (h : Turn family c d i r phase) (hj : j ∈ phase.awaited) :
    ∃ s, d.readers[j]? = some s ∧ s.phase = .entering ∧ s.ancestors = i :: r.ancestors ∧
      s.within = r.key :: r.within := by
  cases h with
  | shift h hnew =>
    cases h with
    | read hp =>
      rw [List.mem_singleton.mp hj]
      refine ⟨_, hnew 0 _ rfl, ?_, ?_, ?_⟩ <;> rfl
    | @readAll _ keys _ hp =>
      obtain ⟨n, hn, rfl⟩ := List.mem_map.mp hj
      have hlt : n < keys.length := List.mem_range.mp hn
      exact ⟨_, hnew n _ (getElem?_childReaders_of_lt hlt i r), rfl, rfl, rfl⟩
    | _ => cases hj
  | _ => cases hj

/-! ## Whoever reads on behalf of another is waited for -/

/-- The readers form a forest, and every branch of it is alive down to its last reader. -/
structure Linked (c : Config κ ι) : Prop where
  older : ∀ {i j : Nat} {r : Reader κ ι}, c.readers[i]? = some r → j ∈ r.ancestors → j < i
  top : ∀ {i : Nat} {r : Reader κ ι}, c.readers[i]? = some r → r.ancestors = [] → r.within = []
  child : ∀ {i j : Nat} {r : Reader κ ι}, c.readers[i]? = some r → j ∈ r.phase.awaited →
    ∃ s, c.readers[j]? = some s ∧ s.ancestors = i :: r.ancestors ∧ s.within = r.key :: r.within
  parent : ∀ {i j : Nat} {r : Reader κ ι} {rest : List Nat}, c.readers[i]? = some r →
    r.phase.isOver = false → r.ancestors = j :: rest →
    ∃ s, c.readers[j]? = some s ∧ i ∈ s.phase.awaited

/-- Side-by-side reads have answered their lists only when each of them has. -/
theorem forall₂_of_joined? {children : List Nat} {listings : List (Listing ι)}
    (h : c.joined? children = some (.ok listings)) :
    List.Forall₂ (fun j listing => c.result? j = some (.ok listing)) children listings := by
  unfold joined? at h
  split at h
  · cases h
  · obtain ⟨answers, hanswers, heq⟩ := Option.map_eq_some_iff.mp h
    obtain rfl : answers = listings := Except.ok.inj heq
    refine (forall₂_of_mapM hanswers).imp fun j listing hlisting => ?_
    split at hlisting
    · rename_i hresult
      cases hlisting
      exact hresult
    · cases hlisting

theorem result?_of_joined? {children : List Nat} {listings : List (Listing ι)}
    (h : c.joined? children = some (.ok listings)) (hj : j ∈ children) :
    ∃ listing, c.result? j = some (.ok listing) := by
  obtain ⟨listing, -, hlisting⟩ := exists_of_forall₂ (forall₂_of_joined? h) hj
  exact ⟨listing, hlisting⟩

theorem isOver_of_result? {result : ReadResult ι} (h : c.result? j = some result)
    (hs : c.readers[j]? = some s) : s.phase.isOver = true := by
  rw [result?, hs] at h
  exact Phase.isOver_of_result? h

namespace Linked

/-- Readers that are waited for come after the one that waits. -/
theorem younger (h : Linked c) (hr : c.readers[i]? = some r) (hj : j ∈ r.phase.awaited) :
    i < j := by
  obtain ⟨s, hs, ha, -⟩ := h.child hr hj
  exact h.older hs (ha ▸ List.mem_cons_self)

/-- Giving up those that a reader waits for does not take the reader along. -/
theorem not_isUnder (h : Linked c) (hr : c.readers[i]? = some r) :
    isUnder r.phase.awaited i r = false := by
  simp only [isUnder, Bool.or_eq_false_iff, List.any_eq_false, List.contains_iff_mem]
  refine ⟨?_, ?_⟩
  · rw [Bool.eq_false_iff, ne_eq, List.contains_iff_mem]
    intro hi
    exact absurd (h.younger hr hi) (Nat.lt_irrefl i)
  · intro j hj hawaited
    exact absurd (h.younger hr hawaited) (Nat.not_lt.mpr (Nat.le_of_lt (h.older hr hj)))

theorem initial : Linked (Config.initial : Config κ ι) where
  older h := by cases h
  top h := by cases h
  child h := by cases h
  parent h := by cases h

/-- A reader for which somebody waits is not the one that has all answers it waits for. -/
theorem ne_parent (h : Linked c) {rest : List Nat} (hr : c.readers[i]? = some r)
    (hlive : r.phase.isOver = false) (ha : r.ancestors = j :: rest) {k : Nat} {q : Reader κ ι}
    (hq : c.readers[k]? = some q)
    (hidle : ∀ x ∈ q.phase.awaited, ∃ result, c.result? x = some result) : k ≠ j := by
  rintro rfl
  obtain ⟨p, hp, hawaited⟩ := h.parent hr hlive ha
  obtain rfl : p = q := Option.some.inj (hp.symm.trans hq)
  obtain ⟨result, hresult⟩ := hidle i hawaited
  rw [isOver_of_result? hresult hr] at hlive
  cases hlive

/-- A collection inside whose population a read was issued is being filled as long as the read is
not over. -/
theorem exists_populating (h : Linked c) {key : κ} : ∀ {i : Nat} {r : Reader κ ι},
    c.readers[i]? = some r → r.phase.isOver = false → key ∈ r.within →
    ∃ j s a, c.readers[j]? = some s ∧ j ∈ r.ancestors ∧ s.key = key ∧
      s.phase.active? = some a := by
  intro i
  induction i using Nat.strongRecOn with
  | ind i ih =>
    intro r hr hlive hkey
    cases ha : r.ancestors with
    | nil =>
      rw [h.top hr ha] at hkey
      cases hkey
    | cons j rest =>
      obtain ⟨p, hp, hawaited⟩ := h.parent hr hlive ha
      obtain ⟨s, hs, hancestors, hwithin⟩ := h.child hp hawaited
      obtain rfl : s = r := Option.some.inj (hs.symm.trans hr)
      obtain ⟨a, hactive⟩ := Phase.active?_of_awaited hawaited
      rw [hwithin] at hkey
      rcases List.mem_cons.mp hkey with rfl | hkey
      · exact ⟨j, p, a, hp, List.mem_cons_self, rfl, hactive⟩
      · obtain ⟨k, t, b, ht, hk, htkey, hb⟩ :=
          ih j (h.younger hp hawaited) hp (Phase.isOver_of_active? hactive) hkey
        rw [ha] at hancestors
        rw [(List.cons.inj hancestors).2]
        exact ⟨k, t, b, ht, List.mem_cons_of_mem j hk, htkey, hb⟩

variable [DecidableEq κ]

/-- Whoever gives up those that it waits for stays. -/
theorem kept (h : Linked c) (hr : c.readers[i]? = some r) {children : List Nat}
    (hchildren : r.phase.awaited = children) : (c.abandon children).readers[i]? = some r := by
  rw [← hchildren, getElem?_abandon, hr, Option.map_some, dropped_of_not_isGone]
  exact Bool.and_eq_false_iff.mpr (Or.inl (h.not_isUnder hr))

/-- Whoever is not taken along keeps the one that waits for it. -/
theorem kept_parent (h : Linked c) {roots rest : List Nat} (hr : c.readers[i]? = some r)
    (hlive : r.phase.isOver = false) (ha : r.ancestors = j :: rest)
    (hunder : isUnder roots i r = false) :
    ∃ p, c.readers[j]? = some p ∧ (c.abandon roots).readers[j]? = some p ∧
      i ∈ p.phase.awaited := by
  obtain ⟨p, hp, hawaited⟩ := h.parent hr hlive ha
  obtain ⟨s, hs, hancestors, -⟩ := h.child hp hawaited
  obtain rfl : s = r := Option.some.inj (hs.symm.trans hr)
  rw [ha] at hancestors
  -- the parent stands among the ancestors, together with all of its own
  have hparent : isUnder roots j p = false := by
    simp only [isUnder, ha, List.any_cons, Bool.or_eq_false_iff] at hunder ⊢
    rw [(List.cons.inj hancestors).2] at hunder
    exact hunder.2
  refine ⟨p, hp, ?_, hawaited⟩
  rw [getElem?_abandon, hp, Option.map_some, dropped_of_not_isGone (by simp [isGone, hparent])]

end Linked

/-- Who moves by a shift does not wait for anybody that is not over. -/
theorem Shift.idle {phase : Phase κ ι} {new : List (Reader κ ι)} {messages : List Sent}
    (h : Shift family c i r phase new messages) (hj : j ∈ r.phase.awaited) :
    ∃ result, c.result? j = some result := by
  cases h with
  | result hp h =>
    rw [hp] at hj
    exact ⟨_, List.mem_singleton.mp hj ▸ h⟩
  | joined hp h =>
    rw [hp] at hj
    obtain ⟨listing, hlisting⟩ := result?_of_joined? h hj
    exact ⟨_, hlisting⟩
  | _ => rename r.phase = _ => hp; rw [hp] at hj; cases hj

namespace Linked

variable [DecidableEq κ]

/-- A step leaves the forest of readers a forest. -/
theorem transition (h : Linked c) (ht : Transition family c d) : Linked d where
  older {i j s} hs hj := by
    rcases ht.before hs with ⟨r, hr, hsame, -⟩ | ⟨hn, hborn⟩
    · rw [hsame.ancestors] at hj
      exact h.older hr hj
    · have hi : c.readers.length ≤ i := List.getElem?_eq_none_iff.mp hn
      cases hborn with
      | outside _ ha => rw [ha] at hj; cases hj
      | @inside k _ r _ _ _ hr _ _ ha =>
        have hk : k < c.readers.length := (List.getElem?_eq_some_iff.mp hr).1
        rw [ha] at hj
        rcases List.mem_cons.mp hj with rfl | hj
        · omega
        · have := h.older hr hj
          omega
  top {i s} hs ha := by
    rcases ht.before hs with ⟨r, hr, hsame, -⟩ | ⟨-, hborn⟩
    · rw [hsame.ancestors] at ha
      rw [hsame.within]
      exact h.top hr ha
    · cases hborn with
      | outside _ _ hw => exact hw
      | inside _ _ _ _ ha' => rw [ha] at ha'; cases ha'
  child {i j s} hs hj := by
    rcases ht.before hs with ⟨r, hr, hsame, hphase | hturn⟩ | ⟨-, hborn⟩
    · rw [hphase] at hj
      obtain ⟨t, ht', ha, hw⟩ := h.child hr hj
      obtain ⟨phase, hd, -⟩ := ht.reader ht'
      rw [hsame.ancestors, hsame.key, hsame.within]
      exact ⟨_, hd, ha, hw⟩
    · rw [hsame.ancestors, hsame.key, hsame.within]
      obtain ⟨t, ht', -, ha, hw⟩ := hturn.awaited hj
      exact ⟨t, ht', ha, hw⟩
    · rw [hborn.entering] at hj
      cases hj
  parent {i j s rest} hs hlive ha := by
    rcases ht.before hs with ⟨r, hr, hsame, hstays⟩ | ⟨-, hborn⟩
    · have hliver : r.phase.isOver = false := by
        rcases hstays with hstays | hturn
        · rw [← hstays]; exact hlive
        · exact hturn.isOver
      have har : r.ancestors = j :: rest := hsame.ancestors ▸ ha
      clear hstays
      obtain ⟨p, hp, hawaited⟩ := h.parent hr hliver har
      have hj : j < c.readers.length := (List.getElem?_eq_some_iff.mp hp).1
      cases ht with
      | outside _ hreaders => exact ⟨p, by rw [hreaders, hp], hawaited⟩
      | start key =>
        refine ⟨p, ?_, hawaited⟩
        simp only [start]
        rw [List.getElem?_append_left hj, hp]
      | shift hq hshift =>
        have hne := h.ne_parent hr hliver har hq fun x hx => hshift.idle hx
        exact ⟨p, by rw [getElem?_shifted_ne hne hj, hp], hawaited⟩
      | @fill k q hq hphase hc =>
        have hne := h.ne_parent hr hliver har hq fun x hx => by rw [hphase] at hx; cases hx
        exact ⟨p, by rw [(enter_of_empty hc).1, getElem?_setPhase_ne hne, hp], hawaited⟩
      | @finish k q a result hq hphase =>
        have hne := h.ne_parent hr hliver har hq fun x hx => by rw [hphase] at hx; cases hx
        exact ⟨p, by rw [(finish_eq c k q a result).1, getElem?_setPhase_ne hne, hp], hawaited⟩
      | giveUp =>
        obtain ⟨hs, hunder⟩ := not_isUnder_of_abandon hs hlive
        obtain ⟨q, -, hq, hawaits⟩ := h.kept_parent hs hlive ha hunder
        exact ⟨q, hq, hawaits⟩
      | @fail k q a children next error hq hphase _ =>
        -- the one that waited for the children is not among those given up, nor above one of them
        have hunder : isUnder children i r = false ∧ k ≠ j := by
          by_cases hki : k = i
          · subst hki
            obtain rfl : q = r := Option.some.inj (hq.symm.trans hr)
            have hown := h.not_isUnder hq
            rw [hphase] at hown
            exact ⟨hown, Nat.ne_of_gt (h.older hq (har ▸ List.mem_cons_self))⟩
          · rw [getElem?_setPhase_ne hki] at hs
            obtain ⟨hs, hunder⟩ := not_isUnder_of_abandon hs hlive
            obtain rfl : s = r := Option.some.inj (hs.symm.trans hr)
            refine ⟨hunder, ?_⟩
            rintro rfl
            obtain rfl : q = p := Option.some.inj (hq.symm.trans hp)
            rw [hphase] at hawaited
            simp only [isUnder, Bool.or_eq_false_iff] at hunder
            exact absurd (List.contains_iff_mem.mpr hawaited) (Bool.eq_false_iff.mp hunder.1)
        obtain ⟨p', hp', hd, hawaits⟩ := h.kept_parent hr hliver har hunder.1
        exact ⟨p', by rw [getElem?_setPhase_ne hunder.2, hd], hawaits⟩
    · cases hborn with
      | outside _ ha' => rw [ha] at ha'; cases ha'
      | inside _ _ _ _ ha' _ hd hj =>
        rw [ha] at ha'
        obtain ⟨rfl, -⟩ := List.cons.inj ha'
        exact ⟨_, hd, hj⟩

end Linked

end Config

end CubeClient.Deferred
