import CubeClient.Proofs.Deferred.Reentrancy
import CubeClient.Proofs.Deferred.Requests

/-!
# What is asked for again

Two configurations of a run are compared, an earlier one and a later one. What has been sent in
between belongs to collections that were not filled at the earlier time (`Coherent.sent_since`), and
a collection that was empty then and is filled now has been filled by an attempt that was begun in
between (`Coherent.begun_since`). A read of a collection that was filled all the time sends nothing,
be it by itself or through others that read on its behalf (`Coherent.silent`).
-/

namespace CubeClient.Deferred

namespace Config

variable {κ ι : Type} [Named ι] {family : Family κ ι} {c d : Config κ ι} {i j a : Nat} {key : κ}
  {r s : Reader κ ι} {listing : Listing ι} {message : Message} {sends : Message → Prop}

/-- A message that a reader has sent, or another one on its behalf. -/
def SentFor (c : Config κ ι) (i : Nat) (sent : Sent) : Prop :=
  ∃ (j : Nat) (q : Reader κ ι), c.readers[j]? = some q ∧ (j = i ∨ i ∈ q.ancestors) ∧
    q.phase.own? = some sent.attempt

/-- A reader without an attempt has sent nothing, and nobody else has on its behalf. -/
theorem Nested.not_sentFor (h : Nested family c) (hr : c.readers[i]? = some r)
    (hown : r.phase.own? = none) (sent : Sent) : ¬ c.SentFor i sent := by
  rintro ⟨j, q, hq, rfl | hi, hattempt⟩
  · obtain rfl := Option.some.inj (hr.symm.trans hq)
    rw [hown] at hattempt
    cases hattempt
  · exact h.not_mem_ancestors hr hown hq hi

/-- An attempt that has ended has sent the request of its collection. -/
theorem Asked.mem_sent (h : Asked family key message sends c) (hr : c.readers[i]? = some r)
    (hkey : r.key = key) {result : ReadResult ι} (hp : r.phase = .finished (some a) result) :
    (⟨a, message⟩ : Sent) ∈ c.sent := by
  rcases h.sent hr hkey (by rw [hp]; rfl) with ⟨-, hworking | hdropped⟩ | ⟨rest, hasked, -⟩
  · rw [hp] at hworking
    cases hworking
  · rw [hp] at hdropped
    cases hdropped
  · exact mem_of_mem_messagesOf (hasked ▸ List.mem_cons_self)

variable [DecidableEq κ]

theorem ran_foldl (family : Family κ ι) (later : List (Event κ)) (h : c.Ran i key a) :
    (later.foldl (step family) c).Ran i key a :=
  foldl_induction (fun _ _ h ht => ht.ran h) later h

/-- A read that is over stays as it is. -/
theorem reader_foldl_of_isOver (family : Family κ ι) (later : List (Event κ))
    (hr : c.readers[i]? = some r) (hover : r.phase.isOver = true) :
    (later.foldl (step family) c).readers[i]? = some r := by
  refine foldl_induction (P := fun d => d.readers[i]? = some r) (fun d e hd ht => ?_) later hr
  obtain ⟨phase, he, rfl | hturn⟩ := ht.reader hd
  · exact he
  · have hlive := hturn.isOver
    rw [hover] at hlive
    cases hlive

/-- Nothing of a reader changes but its phase. -/
theorem reader_foldl (family : Family κ ι) (later : List (Event κ))
    (hr : c.readers[i]? = some r) :
    ∃ phase, (later.foldl (step family) c).readers[i]? = some { r with phase } := by
  refine foldl_induction (P := fun d => ∃ phase, d.readers[i]? = some { r with phase })
    (fun d e hd ht => ?_) later ⟨r.phase, hr⟩
  obtain ⟨phase, hd⟩ := hd
  obtain ⟨phase', he, -⟩ := ht.reader hd
  exact ⟨phase', he⟩

/-- On behalf of a reader that has begun its attempt since, nobody read before. -/
theorem Nested.getElem?_eq_none (h : Nested family c) (hl : Linked c)
    (hfresh : ∀ q, c.readers[i]? = some q → q.phase.own? = none) {later : List (Event κ)}
    (hs : (later.foldl (step family) c).readers[j]? = some s) (hi : i ∈ s.ancestors) :
    c.readers[j]? = none := by
  cases hq : c.readers[j]? with
  | none => rfl
  | some q =>
    obtain ⟨phase, hphase⟩ := reader_foldl family later hq
    obtain rfl := Option.some.inj (hphase.symm.trans hs)
    have hbehalf : i ∈ q.ancestors := hi
    have hlt : i < c.readers.length :=
      Nat.lt_trans (hl.older hq hbehalf) (List.getElem?_eq_some_iff.mp hq).1
    have hr := List.getElem?_eq_getElem hlt
    exact absurd hbehalf (h.not_mem_ancestors hr (hfresh _ hr) hq)

namespace Coherent

/-- An attempt that was begun before was that of the same reader. -/
theorem ran_before (h : Coherent c) {later : List (Event κ)}
    (hran : (later.foldl (step family) c).Ran i key a) (hlt : a < c.attempts.length) :
    c.Ran i key a := by
  have hd : Coherent (later.foldl (step family) c) := h.foldl family later
  have hattempt := attempt_foldl family later (List.getElem?_eq_getElem hlt)
  obtain rfl := Option.some.inj (hattempt.symm.trans (hd.guarded.runner.mpr ⟨i, hran⟩))
  obtain ⟨j, hj⟩ := h.guarded.runner.mp (List.getElem?_eq_getElem hlt)
  obtain rfl := hd.guarded.single (ran_foldl family later hj) hran
  exact hj

/-- An attempt of a reader that had none before has been begun since. -/
theorem begun_of_fresh (h : Coherent c) {later : List (Event κ)}
    (hran : (later.foldl (step family) c).Ran i key a)
    (hfresh : ∀ q, c.readers[i]? = some q → q.phase.own? = none) : c.attempts.length ≤ a := by
  by_contra hlt
  obtain ⟨q, hq, -, hown⟩ := h.ran_before hran (Nat.lt_of_not_le hlt)
  rw [hfresh q hq] at hown
  cases hown

/-- A collection that has been filled in between was filled by an attempt begun in between. -/
theorem begun_since (h : Coherent c) (hanswered : Answered c) {later : List (Event κ)}
    (hbuilt : Answered (later.foldl (step family) c)) (hempty : (c.cells key).state = .empty)
    (hs : ((later.foldl (step family) c).cells key).state = .populated listing) :
    c.attempts.length ≤ listing.attempt ∧
      ∃ (i : Nat) (r : Reader κ ι), (later.foldl (step family) c).readers[i]? = some r ∧
        r.key = key ∧
          r.phase = .finished (some listing.attempt) (.ok listing) := by
  obtain ⟨i, r, hr, hkey, hp⟩ := hbuilt.built hs
  refine ⟨?_, i, r, hr, hkey, hp⟩
  by_contra hlt
  have hran : (later.foldl (step family) c).Ran i key listing.attempt :=
    ⟨r, hr, hkey, by rw [hp]; rfl⟩
  obtain ⟨q, hq, hqkey, hown⟩ := h.ran_before hran (Nat.lt_of_not_le hlt)
  -- at the earlier time the reader was either filling the collection or had filled it
  cases hover : q.phase.isOver with
  | false =>
    rw [Phase.own?_eq_active? hover] at hown
    rw [h.guarded.populating.mpr ⟨i, q, hq, hqkey, hown⟩] at hempty
    cases hempty
  | true =>
    obtain rfl := Option.some.inj ((reader_foldl_of_isOver family later hq hover).symm.trans hr)
    rw [← hkey, (hanswered.listed hq hp).1] at hempty
    cases hempty

/-- If a collection was empty and a read of it has answered since, an attempt on it has been begun
and has ended in between. -/
theorem attempted_since (h : Coherent c) (hanswered : Answered c) {later : List (Event κ)}
    (hbuilt : Answered (later.foldl (step family) c)) (hempty : (c.cells key).state = .empty)
    (hr : (later.foldl (step family) c).readers[i]? = some r) (hkey : r.key = key)
    (houtside : r.key ∉ r.within) {result : ReadResult ι} (hresult : r.phase.result? = some result)
    (hlive : ∀ q, c.readers[i]? = some q → q.phase.isOver = false) :
    ∃ (a j : Nat) (s : Reader κ ι) (result : ReadResult ι), c.attempts.length ≤ a ∧
      (later.foldl (step family) c).readers[j]? = some s ∧ s.key = key ∧
        s.phase = .finished (some a) result := by
  obtain ⟨own, hp⟩ := Phase.eq_finished_of_result? hresult
  cases own with
  | none =>
    cases result with
    | error e => exact absurd (hbuilt.refused hr hp) houtside
    | ok listing =>
      obtain ⟨hlt, j, s, hs, hskey, hsp⟩ :=
        h.begun_since hanswered hbuilt hempty (hkey ▸ (hbuilt.listed hr hp).1)
      exact ⟨_, j, s, _, hlt, hs, hskey, hsp⟩
  | some a =>
    refine ⟨a, i, r, result, ?_, hr, hkey, hp⟩
    by_contra hlt
    have hran : (later.foldl (step family) c).Ran i key a := ⟨r, hr, hkey, by rw [hp]; rfl⟩
    obtain ⟨q, hq, hqkey, hown⟩ := h.ran_before hran (Nat.lt_of_not_le hlt)
    rw [Phase.own?_eq_active? (hlive q hq)] at hown
    rw [h.guarded.populating.mpr ⟨i, q, hq, hqkey, hown⟩] at hempty
    cases hempty

/-- What has been sent since is what attempts on collections have sent that were not filled. -/
theorem sent_since (h : Coherent c) (family : Family κ ι) (later : List (Event κ)) :
    ∃ new, (later.foldl (step family) c).sent = c.sent ++ new ∧ ∀ sent ∈ new,
      ∃ key, (later.foldl (step family) c).attempts[sent.attempt]? = some key ∧
        ∀ listing, (c.cells key).state ≠ .populated listing := by
  obtain ⟨new, hnew⟩ := sent_foldl family c later
  refine ⟨new, hnew.symm, fun sent hsent => ?_⟩
  have hlt : sent.attempt < (later.foldl (step family) c).attempts.length :=
    (h.foldl family later).sent (hnew ▸ List.mem_append_right _ hsent)
  refine ⟨_, List.getElem?_eq_getElem hlt, fun listing hs => ?_⟩
  have hsettled : Settled c (later.foldl (step family) c) _ listing := h.settled hs later
  obtain ⟨new', hnew', hother⟩ := hsettled.sent
  obtain rfl := List.append_cancel_left (hnew.trans hnew')
  obtain ⟨key, hkey, hne⟩ := hother sent hsent
  rw [List.getElem?_eq_getElem hlt] at hkey
  exact hne (Option.some.inj hkey).symm

/-- What a new attempt has sent was sent since. -/
theorem mem_since (h : Coherent c) {later : List (Event κ)} {new : List Sent}
    (hnew : (later.foldl (step family) c).sent = c.sent ++ new) {sent : Sent}
    (hsent : sent ∈ (later.foldl (step family) c).sent)
    (hbegun : c.attempts.length ≤ sent.attempt) : sent ∈ new := by
  rw [hnew] at hsent
  rcases List.mem_append.mp hsent with hold | hsent
  · exact absurd (h.sent hold) (Nat.not_lt.mpr hbegun)
  · exact hsent

/-- A read of a collection that has been filled since before the read was over has made no attempt,
and so nothing was sent for it. -/
theorem own?_eq_none (h : Coherent c) (hs : (c.cells key).state = .populated listing)
    {later : List (Event κ)} (hr : (later.foldl (step family) c).readers[i]? = some r)
    (hkey : r.key = key) (hlive : ∀ q, c.readers[i]? = some q → q.phase.isOver = false) :
    r.phase.own? = none := by
  cases hown : r.phase.own? with
  | none => rfl
  | some a =>
    have hran : (later.foldl (step family) c).Ran i key a := ⟨r, hr, hkey, hown⟩
    have hattempt := (h.foldl family later).guarded.runner.mpr ⟨i, hran⟩
    have hsettled : Settled c (later.foldl (step family) c) key listing := h.settled hs later
    obtain ⟨new, hnew, hother⟩ := hsettled.attempts
    have hlt : a < c.attempts.length := by
      by_contra hge
      rw [hnew, List.getElem?_append_right (Nat.le_of_not_lt hge)] at hattempt
      exact hother (List.mem_of_getElem? hattempt)
    obtain ⟨q, hq, hqkey, hqown⟩ := h.ran_before hran hlt
    rw [Phase.own?_eq_active? (hlive q hq)] at hqown
    exact absurd ⟨q, hq, hqkey, hqown⟩ (h.not_populates hs)

end Coherent

end Config

end CubeClient.Deferred
