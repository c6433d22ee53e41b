import CubeClient.Deferred.Schedule
import Mathlib.Data.List.Nodup

/-!
# What one step of a configuration can do

`Config.step` runs through many branches; `Transition` says once what they amount to, and every
invariant is derived from it. Most branches only move one reader to another phase and leave alone
who fills what (`Shift`). The others begin an attempt, end one, or drop readers, and `abandon` is
described here by its effect on the readers, on the cells and on the running attempts instead of by
its loop.
-/

namespace CubeClient.Deferred

namespace Phase

variable {κ ι : Type} [Named ι]

/-- The attempt that is or was the reader's own. -/
def own? : Phase κ ι → Option Nat
  | .working attempt _ => some attempt
  | .awaitingReply attempt _ _ => some attempt
  | .awaitingRead attempt _ _ => some attempt
  | .awaitingReads attempt _ _ => some attempt
  | .finished own _ => own
  | .abandoned own => own
  | _ => none

/-- The readers whose answers are waited for. -/
def awaited : Phase κ ι → List Nat
  | .awaitingRead _ child _ => [child]
  | .awaitingReads _ children _ => children
  | _ => []

/-- A reader that is not over has made the attempt that it is at. -/
theorem own?_eq_active? {phase : Phase κ ι} (h : phase.isOver = false) :
    phase.own? = phase.active? := by
  cases phase <;> first | rfl | cases h

theorem own?_of_active? {phase : Phase κ ι} {a : Nat} (h : phase.active? = some a) :
    phase.own? = some a := by
  cases phase <;> first | exact h | cases h

/-- A reader at an attempt is not over. -/
theorem isOver_of_active? {phase : Phase κ ι} {a : Nat} (h : phase.active? = some a) :
    phase.isOver = false := by
  cases phase <;> first | rfl | cases h

theorem isOver_of_result? {phase : Phase κ ι} {result : ReadResult ι}
    (h : phase.result? = some result) : phase.isOver = true := by
  cases phase <;> first | rfl | cases h

theorem eq_finished_of_result? {phase : Phase κ ι} {result : ReadResult ι}
    (h : phase.result? = some result) : ∃ own, phase = .finished own result := by
  cases phase with
  | finished own other => exact ⟨own, by rw [Option.some.inj h]⟩
  | _ => cases h

theorem isOver_of_awaited {phase : Phase κ ι} (h : phase.awaited ≠ []) :
    phase.isOver = false := by
  cases phase <;> first | rfl | exact absurd rfl h

/-- Whoever waits for readers has an attempt under way. -/
theorem active?_of_awaited {phase : Phase κ ι} {j : Nat} (h : j ∈ phase.awaited) :
    ∃ a, phase.active? = some a := by
  cases phase <;> first | exact ⟨_, rfl⟩ | cases h

end Phase

namespace Config

variable {κ ι : Type} [Named ι]

/-! ## Moving one reader -/

@[simp] theorem cells_setPhase (c : Config κ ι) (i : Nat) (phase : Phase κ ι) :
    (c.setPhase i phase).cells = c.cells := rfl

@[simp] theorem running_setPhase (c : Config κ ι) (i : Nat) (phase : Phase κ ι) :
    (c.setPhase i phase).running = c.running := rfl

@[simp] theorem sent_setPhase (c : Config κ ι) (i : Nat) (phase : Phase κ ι) :
    (c.setPhase i phase).sent = c.sent := rfl

@[simp] theorem length_setPhase (c : Config κ ι) (i : Nat) (phase : Phase κ ι) :
    (c.setPhase i phase).readers.length = c.readers.length := by
  simp [setPhase]

/-- Moving a reader changes its phase and nothing else of it. -/
theorem getElem?_setPhase_self {c : Config κ ι} {i : Nat} {r : Reader κ ι}
    (h : c.readers[i]? = some r) (phase : Phase κ ι) :
    (c.setPhase i phase).readers[i]? = some { r with phase } := by
  simp [setPhase, h]

theorem getElem?_setPhase_ne {c : Config κ ι} {i j : Nat} (h : i ≠ j) (phase : Phase κ ι) :
    (c.setPhase i phase).readers[j]? = c.readers[j]? := by
  simp [setPhase, h]

/-- Moves a reader, starts others on its behalf and sends what it has to send. -/
def shifted (c : Config κ ι) (i : Nat) (phase : Phase κ ι) (new : List (Reader κ ι))
    (messages : List Sent) : Config κ ι :=
  { c.setPhase i phase with
    readers := (c.setPhase i phase).readers ++ new
    sent := c.sent ++ messages }

theorem shifted_nil (c : Config κ ι) (i : Nat) (phase : Phase κ ι) :
    c.shifted i phase [] [] = c.setPhase i phase := by
  simp only [shifted, List.append_nil]
  rfl

theorem getElem?_shifted_self {c : Config κ ι} {i : Nat} {r : Reader κ ι}
    (h : c.readers[i]? = some r) (phase : Phase κ ι) (new : List (Reader κ ι))
    (messages : List Sent) :
    (c.shifted i phase new messages).readers[i]? = some { r with phase } := by
  have hr := getElem?_setPhase_self h phase
  simp only [shifted]
  rw [List.getElem?_append_left (List.getElem?_eq_some_iff.mp hr).1, hr]

theorem getElem?_shifted_ne {c : Config κ ι} {i j : Nat} (h : i ≠ j) (hj : j < c.readers.length)
    (phase : Phase κ ι) (new : List (Reader κ ι)) (messages : List Sent) :
    (c.shifted i phase new messages).readers[j]? = c.readers[j]? := by
  simp only [shifted]
  rw [List.getElem?_append_left (by simpa using hj), getElem?_setPhase_ne h]

/-- Behind the readers that were there come those that are started. -/
theorem getElem?_shifted_new {c : Config κ ι} {i j : Nat} (hj : c.readers.length ≤ j)
    (phase : Phase κ ι) (new : List (Reader κ ι)) (messages : List Sent) :
    (c.shifted i phase new messages).readers[j]? = new[j - c.readers.length]? := by
  simp only [shifted]
  rw [List.getElem?_append_right (by simpa using hj), length_setPhase]

/-- Readers that are started on behalf of another. -/
theorem getElem?_childReaders {i n : Nat} {r s : Reader κ ι} {keys : List κ}
    (h : (childReaders i r keys)[n]? = some s) :
    s.ancestors = i :: r.ancestors ∧ s.within = r.key :: r.within ∧ s.phase = .entering ∧
      keys[n]? = some s.key := by
  rw [childReaders, List.getElem?_map] at h
  obtain ⟨key, hkey, rfl⟩ := Option.map_eq_some_iff.mp h
  exact ⟨rfl, rfl, rfl, hkey⟩

/-- A read from inside a population knows on whose behalf it is and inside what. -/
theorem getElem?_childReaders_of_lt {keys : List κ} {n : Nat} (h : n < keys.length) (i : Nat)
    (r : Reader κ ι) :
    (childReaders i r keys)[n]? =
      some ⟨keys[n], i :: r.ancestors, r.key :: r.within, .entering⟩ := by
  rw [childReaders, List.getElem?_map, List.getElem?_eq_getElem h]
  rfl

/-- A reply that is due arrives. -/
theorem reply?_deliver {c : Config κ ι} {q : Nat} (reply : Reply) (hq : q < c.sent.length)
    (hnone : c.reply? q = none) :
    c.deliver q reply = { c with replies := c.replies ++ [(q, reply)] } ∧
      (c.deliver q reply).reply? q = some reply := by
  have hdeliver : c.deliver q reply = { c with replies := c.replies ++ [(q, reply)] } := by
    simp only [deliver, hq, hnone, Option.isNone_none, and_self, if_true]
  refine ⟨hdeliver, ?_⟩
  rw [hdeliver, reply?, List.find?_append, Option.map_eq_none_iff.mp hnone]
  simp

/-! ## Dropping readers -/

/-- Whether giving up some readers takes this one along. -/
def isGone (roots : List Nat) (i : Nat) (r : Reader κ ι) : Bool :=
  isUnder roots i r && !r.phase.isOver

/-- A reader after some readers have been given up. -/
def dropped (roots : List Nat) (i : Nat) (r : Reader κ ι) : Reader κ ι :=
  if isGone roots i r then { r with phase := .abandoned r.phase.active? } else r

/-- Who is over is not given up. -/
theorem isOver_of_isGone {roots : List Nat} {i : Nat} {r : Reader κ ι}
    (h : isGone roots i r = true) : r.phase.isOver = false := by
  simp only [isGone, Bool.and_eq_true, Bool.not_eq_eq_eq_not, Bool.not_true] at h
  exact h.2

theorem dropped_of_isGone {roots : List Nat} {i : Nat} {r : Reader κ ι}
    (h : isGone roots i r = true) :
    dropped roots i r = { r with phase := .abandoned r.phase.active? } := by
  simp [dropped, h]

theorem dropped_of_not_isGone {roots : List Nat} {i : Nat} {r : Reader κ ι}
    (h : isGone roots i r = false) : dropped roots i r = r := by
  simp [dropped, h]

@[simp] theorem key_dropped (roots : List Nat) (i : Nat) (r : Reader κ ι) :
    (dropped roots i r).key = r.key := by
  unfold dropped
  split <;> rfl

/-- A reader that is given up keeps the attempt that it has made. -/
theorem own?_dropped (roots : List Nat) (i : Nat) (r : Reader κ ι) :
    (dropped roots i r).phase.own? = r.phase.own? := by
  by_cases h : isGone roots i r = true
  · rw [dropped_of_isGone h, Phase.own?_eq_active? (isOver_of_isGone h)]
    rfl
  · rw [dropped_of_not_isGone (Bool.eq_false_iff.mpr h)]

variable [DecidableEq κ]

/-- Gives up a reader if it is taken along. -/
def releaseGone (roots : List Nat) (c : Config κ ι) (entry : Reader κ ι × Nat) : Config κ ι :=
  if isGone roots entry.2 entry.1 then c.release entry.2 entry.1 else c

theorem abandon_eq (c : Config κ ι) (roots : List Nat) :
    c.abandon roots = c.readers.zipIdx.foldl (releaseGone roots) c := rfl

/-- Giving up a reader changes no other reader. -/
theorem readers_release (c : Config κ ι) (i : Nat) (r : Reader κ ι) :
    (c.release i r).readers = (c.setPhase i (.abandoned r.phase.active?)).readers := by
  unfold release
  split
  · rename_i a ha
    rw [ha]
    rfl
  · rename_i ha
    rw [ha]

/-- The collection that it was filling is empty again. -/
theorem cells_release_of_active {c : Config κ ι} {i : Nat} {r : Reader κ ι} {a : Nat}
    (h : r.phase.active? = some a) (key : κ) :
    (c.release i r).cells key =
      if key = r.key then { c.cells key with state := .empty } else c.cells key := by
  simp only [release, h, setCell, setPhase]
  split
  · rename_i hkey
    rw [hkey]
  · rfl

/-- A reader that filled nothing leaves all collections as they are. -/
theorem cells_release_of_idle {c : Config κ ι} {i : Nat} {r : Reader κ ι}
    (h : r.phase.active? = none) : (c.release i r).cells = c.cells := by
  simp only [release, h, cells_setPhase]

theorem mem_running_release {c : Config κ ι} {i a : Nat} {r : Reader κ ι} :
    a ∈ (c.release i r).running ↔ a ∈ c.running ∧ r.phase.active? ≠ some a := by
  unfold release
  split
  · rename_i b hb
    simp only [List.mem_filter, hb, ne_eq, Option.some.injEq, bne_iff_ne]
    exact and_congr Iff.rfl (not_congr eq_comm)
  · rename_i hb
    simp [hb]

theorem others_release (c : Config κ ι) (i : Nat) (r : Reader κ ι) :
    (c.release i r).attempts = c.attempts ∧ (c.release i r).sent = c.sent := by
  unfold release
  split <;> exact ⟨rfl, rfl⟩

section ReleaseAll

variable (roots : List Nat)

theorem others_releaseAll (entries : List (Reader κ ι × Nat)) (c : Config κ ι) :
    (entries.foldl (releaseGone roots) c).attempts = c.attempts ∧
      (entries.foldl (releaseGone roots) c).sent = c.sent := by
  induction entries generalizing c with
  | nil => exact ⟨rfl, rfl⟩
  | cons entry entries ih =>
    obtain ⟨ha, hs⟩ := ih (releaseGone roots c entry)
    rw [List.foldl_cons, ha, hs]
    unfold releaseGone
    split
    · exact others_release c entry.2 entry.1
    · exact ⟨rfl, rfl⟩

/-- Giving up several readers drops each of them, and only those. -/
theorem getElem?_releaseAll (entries : List (Reader κ ι × Nat))
    (hdistinct : (entries.map Prod.snd).Nodup) (c : Config κ ι)
    (hcurrent : ∀ entry ∈ entries, c.readers[entry.2]? = some entry.1) (j : Nat) :
    (entries.foldl (releaseGone roots) c).readers[j]? =
      if j ∈ entries.map Prod.snd then c.readers[j]?.map (dropped roots j)
      else c.readers[j]? := by
  induction entries generalizing c with
  | nil => simp
  | cons entry entries ih =>
    obtain ⟨r, i⟩ := entry
    rw [List.map_cons, List.nodup_cons] at hdistinct
    have hr : c.readers[i]? = some r := hcurrent (r, i) List.mem_cons_self
    have hself : (releaseGone roots c (r, i)).readers[i]? = some (dropped roots i r) := by
      unfold releaseGone
      by_cases hg : isGone roots i r = true
      · rw [if_pos hg, readers_release, getElem?_setPhase_self hr, dropped_of_isGone hg]
      · rw [if_neg hg, hr, dropped_of_not_isGone (Bool.eq_false_iff.mpr hg)]
    have hother : ∀ k, k ≠ i → (releaseGone roots c (r, i)).readers[k]? = c.readers[k]? := by
      intro k hk
      unfold releaseGone
      split
      · rw [readers_release, getElem?_setPhase_ne (Ne.symm hk)]
      · rfl
    have hcurrent' : ∀ entry ∈ entries,
        (releaseGone roots c (r, i)).readers[entry.2]? = some entry.1 := by
      intro entry hentry
      have hne : entry.2 ≠ i := by
        intro he
        have hmem : entry.2 ∈ entries.map Prod.snd := List.mem_map_of_mem hentry
        exact hdistinct.1 (he ▸ hmem)
      rw [hother entry.2 hne]
      exact hcurrent entry (List.mem_cons_of_mem _ hentry)
    rw [List.foldl_cons, ih hdistinct.2 _ hcurrent', List.map_cons]
    by_cases hji : j = i
    · subst hji
      rw [if_neg hdistinct.1, if_pos List.mem_cons_self, hself, hr]
      rfl
    · rw [hother j hji]
      simp only [List.mem_cons, hji, false_or]

/-- A collection is empty again if one of them was filling it, and as it was otherwise. -/
theorem cells_releaseAll (entries : List (Reader κ ι × Nat)) (c : Config κ ι) (key : κ) :
    ((∃ entry ∈ entries, isGone roots entry.2 entry.1 = true ∧ entry.1.key = key ∧
        ∃ a, entry.1.phase.active? = some a) →
      (entries.foldl (releaseGone roots) c).cells key = { c.cells key with state := .empty }) ∧
    ((∀ entry ∈ entries, isGone roots entry.2 entry.1 = true → entry.1.key = key →
        entry.1.phase.active? = none) →
      (entries.foldl (releaseGone roots) c).cells key = c.cells key) := by
  induction entries generalizing c with
  | nil => exact ⟨fun ⟨_, h, _⟩ => (List.not_mem_nil h).elim, fun _ => rfl⟩
  | cons entry entries ih =>
    obtain ⟨r, i⟩ := entry
    rw [List.foldl_cons]
    obtain ⟨ihgone, ihkept⟩ := ih (releaseGone roots c (r, i))
    -- whether the rest of the readers matters decides what the first one can change
    by_cases hrest : ∃ entry ∈ entries, isGone roots entry.2 entry.1 = true ∧ entry.1.key = key ∧
        ∃ a, entry.1.phase.active? = some a
    · have hfirst : { (releaseGone roots c (r, i)).cells key with state := .empty } =
          { c.cells key with state := .empty } := by
        unfold releaseGone
        split
        · cases hact : r.phase.active? with
          | none => rw [cells_release_of_idle hact]
          | some a =>
            rw [cells_release_of_active hact]
            split <;> rfl
        · rfl
      refine ⟨fun _ => (ihgone hrest).trans hfirst, fun hnone => ?_⟩
      obtain ⟨entry, hentry, hgone, hkey, a, ha⟩ := hrest
      have := hnone entry (List.mem_cons_of_mem _ hentry) hgone hkey
      rw [ha] at this
      cases this
    · have hnone : ∀ entry ∈ entries, isGone roots entry.2 entry.1 = true → entry.1.key = key →
          entry.1.phase.active? = none := by
        intro entry hentry hgone hkey
        cases hact : entry.1.phase.active? with
        | none => rfl
        | some a => exact absurd ⟨entry, hentry, hgone, hkey, a, hact⟩ hrest
      rw [ihkept hnone]
      constructor
      · rintro ⟨entry, hentry, hgone, hkey, a, ha⟩
        rcases List.mem_cons.mp hentry with rfl | hentry
        · rw [releaseGone, if_pos hgone, cells_release_of_active ha, if_pos hkey.symm]
        · exact absurd ⟨entry, hentry, hgone, hkey, a, ha⟩ hrest
      · intro hall
        unfold releaseGone
        split
        · rename_i hgone
          cases hact : r.phase.active? with
          | none => rw [cells_release_of_idle hact]
          | some a =>
            rw [cells_release_of_active hact, if_neg]
            intro hkey
            have := hall (r, i) List.mem_cons_self hgone hkey.symm
            rw [hact] at this
            cases this
        · rfl

/-- The attempts that go on are those that none of them was at. -/
theorem mem_running_releaseAll (entries : List (Reader κ ι × Nat)) (c : Config κ ι) (a : Nat) :
    a ∈ (entries.foldl (releaseGone roots) c).running ↔
      a ∈ c.running ∧ ∀ entry ∈ entries, isGone roots entry.2 entry.1 = true →
        entry.1.phase.active? ≠ some a := by
  induction entries generalizing c with
  | nil => simp
  | cons entry entries ih =>
    rw [List.foldl_cons, ih, List.forall_mem_cons, ← and_assoc]
    refine and_congr_left fun _ => ?_
    unfold releaseGone
    split
    · rename_i hgone
      rw [mem_running_release]
      simp [hgone]
    · rename_i hgone
      simp [hgone]

end ReleaseAll

/-- Dropping readers marks those that are taken along and leaves the others as they are. -/
theorem getElem?_abandon (c : Config κ ι) (roots : List Nat) (j : Nat) :
    (c.abandon roots).readers[j]? = c.readers[j]?.map (dropped roots j) := by
  have hdistinct : (c.readers.zipIdx.map Prod.snd).Nodup := by
    rw [List.zipIdx_map_snd]
    exact List.nodup_range'
  rw [abandon_eq, getElem?_releaseAll roots _ hdistinct c
    (fun entry h => List.mem_zipIdx_iff_getElem?.mp h)]
  split
  · rfl
  · rename_i hj
    rw [List.zipIdx_map_snd, List.mem_range'_1] at hj
    rw [List.getElem?_eq_none (by omega)]
    rfl

/-- Each reader is dropped or stays as it is. -/
theorem reader_of_abandon {c : Config κ ι} {roots : List Nat} {j : Nat} {s : Reader κ ι}
    (h : (c.abandon roots).readers[j]? = some s) :
    ∃ r, c.readers[j]? = some r ∧ s = dropped roots j r := by
  rw [getElem?_abandon] at h
  obtain ⟨r, hr, rfl⟩ := Option.map_eq_some_iff.mp h
  exact ⟨r, hr, rfl⟩

/-- A collection whose filler is dropped is empty again. -/
theorem cells_abandon_of_gone {c : Config κ ι} {roots : List Nat} {i a : Nat} {r : Reader κ ι}
    (hr : c.readers[i]? = some r) (hgone : isGone roots i r = true)
    (ha : r.phase.active? = some a) :
    (c.abandon roots).cells r.key = { c.cells r.key with state := .empty } := by
  rw [abandon_eq]
  exact (cells_releaseAll roots _ c r.key).1
    ⟨(r, i), List.mem_zipIdx_iff_getElem?.mpr hr, hgone, rfl, a, ha⟩

/-- A collection none of whose fillers is dropped stays as it is. -/
theorem cells_abandon_of_kept {c : Config κ ι} {roots : List Nat} {key : κ}
    (h : ∀ i r, c.readers[i]? = some r → isGone roots i r = true → r.key = key →
      r.phase.active? = none) :
    (c.abandon roots).cells key = c.cells key := by
  rw [abandon_eq]
  exact (cells_releaseAll roots _ c key).2 fun entry hentry =>
    h entry.2 entry.1 (List.mem_zipIdx_iff_getElem?.mp hentry)

/-- An attempt goes on unless its reader is given up. -/
theorem mem_running_abandon {c : Config κ ι} {roots : List Nat} {a : Nat} :
    a ∈ (c.abandon roots).running ↔
      a ∈ c.running ∧ ∀ i r, c.readers[i]? = some r → isGone roots i r = true →
        r.phase.active? ≠ some a := by
  rw [abandon_eq, mem_running_releaseAll]
  refine and_congr_right fun _ => ?_
  constructor
  · intro h i r hr
    exact h (r, i) (List.mem_zipIdx_iff_getElem?.mpr hr)
  · intro h entry hentry
    exact h entry.2 entry.1 (List.mem_zipIdx_iff_getElem?.mp hentry)

@[simp] theorem attempts_abandon (c : Config κ ι) (roots : List Nat) :
    (c.abandon roots).attempts = c.attempts :=
  (others_releaseAll roots _ c).1

@[simp] theorem sent_abandon (c : Config κ ι) (roots : List Nat) :
    (c.abandon roots).sent = c.sent :=
  (others_releaseAll roots _ c).2

/-! ## The cells and attempts that a step changes -/

/-- Whoever finds its collection empty fills it, and changes no other one. -/
theorem cells_enter {family : Family κ ι} {c : Config κ ι} {i : Nat} {r : Reader κ ι}
    (h : c.cells r.key = ⟨.empty, none⟩) (key : κ) :
    (c.enter family i r).cells key =
      if key = r.key then ⟨.populating c.attempts.length, none⟩ else c.cells key := by
  simp only [enter, h]
  rfl

/-- Beginning an attempt takes the next number, sets it running and sends nothing. -/
theorem enter_of_empty {family : Family κ ι} {c : Config κ ι} {i : Nat} {r : Reader κ ι}
    (h : c.cells r.key = ⟨.empty, none⟩) :
    (c.enter family i r).readers =
        (c.setPhase i (.working c.attempts.length (family.program r.key))).readers ∧
      (c.enter family i r).attempts = c.attempts ++ [r.key] ∧
      (c.enter family i r).running = c.attempts.length :: c.running ∧
      (c.enter family i r).sent = c.sent := by
  simp only [enter, h, true_and]
  exact ⟨rfl, rfl⟩

/-- What a collection holds once an attempt to fill it is over. -/
def cellAfter (c : Config κ ι) (key : κ) (attempt : Nat)
    (result : Except ClientError (NamedList ι)) : Cell ι :=
  match result with
  | .ok items => ⟨.populated ⟨attempt, items⟩, some ⟨attempt, items⟩⟩
  | .error _ => { c.cells key with state := .empty }

/-- The end of an attempt changes no other collection. -/
theorem cells_finish (c : Config κ ι) (i : Nat) (r : Reader κ ι) (a : Nat)
    (result : Except ClientError (NamedList ι)) (key : κ) :
    (c.finish i r a result).cells key =
      if key = r.key then c.cellAfter r.key a result else c.cells key := by
  cases result <;> rfl

/-- The end of an attempt is answered by its reader, and the attempt is not running any more. -/
theorem finish_eq (c : Config κ ι) (i : Nat) (r : Reader κ ι) (a : Nat)
    (result : Except ClientError (NamedList ι)) :
    (c.finish i r a result).readers =
        (c.setPhase i (.finished (some a) (result.map fun items => ⟨a, items⟩))).readers ∧
      (c.finish i r a result).attempts = c.attempts ∧
      (c.finish i r a result).running = c.running.filter (· != a) ∧
      (c.finish i r a result).sent = c.sent := by
  cases result <;> exact ⟨rfl, rfl, rfl, rfl⟩

/-! ## Transitions -/

/-- How a reader moves without an attempt being begun or ended: its next phase, the readers it
starts and the messages it sends. -/
inductive Shift (family : Family κ ι) (c : Config κ ι) (i : Nat) (r : Reader κ ι) :
    Phase κ ι → List (Reader κ ι) → List Sent → Prop
  | hit {listing : Listing ι} (hp : r.phase = .entering)
      (h : (c.cells r.key).published = some listing ∨
        (c.cells r.key).state = .populated listing) :
      Shift family c i r (.finished none (.ok listing)) [] []
  | refuse {a : Nat} (hp : r.phase = .entering) (hs : (c.cells r.key).state = .populating a)
      (hw : r.key ∈ r.within) :
      Shift family c i r
        (.finished none (.error (.reentrantPopulation (family.label r.key)))) [] []
  | wait {a : Nat} (hp : r.phase = .entering) (hs : (c.cells r.key).state = .populating a)
      (hw : r.key ∉ r.within) : Shift family c i r (.waiting a) [] []
  | wake {a : Nat} (hp : r.phase = .waiting a) (ha : a ∉ c.running) :
      Shift family c i r .entering [] []
  | send {a : Nat} {message : Message} {next : Reply → Population κ ι}
      (hp : r.phase = .working a (.send message next)) :
      Shift family c i r (.awaitingReply a c.sent.length next) [] [⟨a, message⟩]
  | owned {a : Nat} {key : κ} {next : Bool → Population κ ι}
      (hp : r.phase = .working a (.owned key next)) :
      Shift family c i r (.working a (next (c.owned key))) [] []
  | read {a : Nat} {key : κ} {next : ReadResult ι → Population κ ι}
      (hp : r.phase = .working a (.read key next)) :
      Shift family c i r (.awaitingRead a c.readers.length next) (childReaders i r [key]) []
  | readAll {a : Nat} {keys : List κ}
      {next : Except ClientError (List (Listing ι)) → Population κ ι}
      (hp : r.phase = .working a (.readAll keys next)) :
      Shift family c i r
        (.awaitingReads a ((List.range keys.length).map (c.readers.length + ·)) next)
        (childReaders i r keys) []
  | reply {a request : Nat} {next : Reply → Population κ ι} {reply : Reply}
      (hp : r.phase = .awaitingReply a request next) (h : c.reply? request = some reply) :
      Shift family c i r (.working a (next reply)) [] []
  | result {a child : Nat} {next : ReadResult ι → Population κ ι} {result : ReadResult ι}
      (hp : r.phase = .awaitingRead a child next) (h : c.result? child = some result) :
      Shift family c i r (.working a (next result)) [] []
  | joined {a : Nat} {children : List Nat}
      {next : Except ClientError (List (Listing ι)) → Population κ ι}
      {listings : List (Listing ι)} (hp : r.phase = .awaitingReads a children next)
      (h : c.joined? children = some (.ok listings)) :
      Shift family c i r (.working a (next (.ok listings))) [] []

/-- What a step of a reader leads to. -/
inductive Move (family : Family κ ι) (c : Config κ ι) (i : Nat) (r : Reader κ ι) :
    Config κ ι → Prop
  | shift {phase : Phase κ ι} {new : List (Reader κ ι)} {messages : List Sent}
      (h : Shift family c i r phase new messages) :
      Move family c i r (c.shifted i phase new messages)
  /-- The reader begins to fill its collection. -/
  | fill (hp : r.phase = .entering) (hc : c.cells r.key = ⟨.empty, none⟩) :
      Move family c i r (c.enter family i r)
  | finish {a : Nat} {result : Except ClientError (NamedList ι)}
      (hp : r.phase = .working a (.done result)) : Move family c i r (c.finish i r a result)
  /-- One of several reads side by side has failed, and the others are given up. -/
  | fail {a : Nat} {children : List Nat}
      {next : Except ClientError (List (Listing ι)) → Population κ ι} {error : ClientError}
      (hp : r.phase = .awaitingReads a children next)
      (h : c.joined? children = some (.error error)) :
      Move family c i r ((c.abandon children).setPhase i (.working a (next (.error error))))

namespace Move

variable {family : Family κ ι} {c : Config κ ι} {i : Nat} {r : Reader κ ι}

/-- A shift that starts nobody and sends nothing. -/
theorem plain {phase : Phase κ ι} (h : Shift family c i r phase [] []) :
    Move family c i r (c.setPhase i phase) := by
  rw [← shifted_nil]
  exact .shift h

/-- Looking at a collection is a move. -/
theorem of_enter (hp : r.phase = .entering) : Move family c i r (c.enter family i r) := by
  rcases hcell : c.cells r.key with ⟨state, published⟩
  have hstate : (c.cells r.key).state = state := by rw [hcell]
  cases published with
  | some listing =>
    have he : c.enter family i r = c.setPhase i (.finished none (.ok listing)) := by
      simp only [enter, hcell]
    rw [he]
    exact plain (.hit hp (Or.inl (by rw [hcell])))
  | none =>
    cases state with
    | empty => exact .fill hp hcell
    | populated listing =>
      have he : c.enter family i r = c.setPhase i (.finished none (.ok listing)) := by
        simp only [enter, hcell]
      rw [he]
      exact plain (.hit hp (Or.inr hstate))
    | populating a =>
      by_cases hw : r.key ∈ r.within
      · have he : c.enter family i r = c.setPhase i
            (.finished none (.error (.reentrantPopulation (family.label r.key)))) := by
          simp only [enter, hcell, hw, ↓reduceIte]
        rw [he]
        exact plain (.refuse hp hstate hw)
      · have he : c.enter family i r = c.setPhase i (.waiting a) := by
          simp only [enter, hcell, hw, ↓reduceIte]
        rw [he]
        exact plain (.wait hp hstate hw)

theorem of_work {a : Nat} {program : Population κ ι} (hp : r.phase = .working a program) :
    Move family c i r (c.work i r a program) := by
  cases program with
  | done result => exact .finish hp
  | send message next =>
    have he : c.work i r a (.send message next) =
        c.shifted i (.awaitingReply a c.sent.length next) [] [⟨a, message⟩] := by
      simp only [work, shifted, List.append_nil]
    rw [he]
    exact .shift (.send hp)
  | owned key next => exact plain (.owned hp)
  | read key next =>
    have he : c.work i r a (.read key next) =
        c.shifted i (.awaitingRead a c.readers.length next) (childReaders i r [key]) [] := by
      simp only [work, shifted, List.append_nil, sent_setPhase]
    rw [he]
    exact .shift (.read hp)
  | readAll keys next =>
    have he : c.work i r a (.readAll keys next) = c.shifted i
        (.awaitingReads a ((List.range keys.length).map (c.readers.length + ·)) next)
        (childReaders i r keys) [] := by
      simp only [work, shifted, List.append_nil, sent_setPhase]
    rw [he]
    exact .shift (.readAll hp)

/-- A reader that can move does, and one that cannot changes nothing. -/
theorem of_advance (family : Family κ ι) (hr : c.readers[i]? = some r) :
    c.canMove r = true ∧ Move family c i r (c.advance family i) ∨
      c.canMove r = false ∧ c.advance family i = c := by
  cases hp : r.phase with
  | entering =>
    simp only [advance, canMove, hr, hp]
    exact .inl ⟨trivial, of_enter hp⟩
  | waiting a =>
    simp only [advance, canMove, hr, hp, Bool.not_eq_true', Bool.not_eq_false',
      List.contains_iff_mem]
    split
    · rename_i ha
      exact .inr ⟨ha, rfl⟩
    · rename_i ha
      exact .inl ⟨by simpa using ha, plain (.wake hp ha)⟩
  | working a program =>
    simp only [advance, canMove, hr, hp]
    exact .inl ⟨trivial, of_work hp⟩
  | awaitingReply a request next =>
    simp only [advance, canMove, hr, hp]
    cases h : c.reply? request with
    | none => exact .inr ⟨rfl, rfl⟩
    | some reply => exact .inl ⟨rfl, plain (.reply hp h)⟩
  | awaitingRead a child next =>
    simp only [advance, canMove, hr, hp]
    cases h : c.result? child with
    | none => exact .inr ⟨rfl, rfl⟩
    | some result => exact .inl ⟨rfl, plain (.result hp h)⟩
  | awaitingReads a children next =>
    simp only [advance, canMove, hr, hp]
    cases h : c.joined? children with
    | none => exact .inr ⟨rfl, rfl⟩
    | some answers =>
      cases answers with
      | error error => exact .inl ⟨rfl, .fail hp h⟩
      | ok listings => exact .inl ⟨rfl, plain (.joined hp h)⟩
  | finished own result =>
    simp only [advance, canMove, hr, hp]
    exact .inr ⟨trivial, trivial⟩
  | abandoned own =>
    simp only [advance, canMove, hr, hp]
    exact .inr ⟨trivial, trivial⟩

end Move

/-- What one step leads to. -/
inductive Transition (family : Family κ ι) (c : Config κ ι) : Config κ ι → Prop
  /-- Nothing that concerns readers and collections. -/
  | outside {d : Config κ ι} (hc : d.cells = c.cells) (hr : d.readers = c.readers)
      (ha : d.attempts = c.attempts) (hu : d.running = c.running) (hs : d.sent = c.sent) :
      Transition family c d
  | start (key : κ) : Transition family c (c.start key)
  | shift {i : Nat} {r : Reader κ ι} {phase : Phase κ ι} {new : List (Reader κ ι)}
      {messages : List Sent} (hr : c.readers[i]? = some r)
      (h : Shift family c i r phase new messages) :
      Transition family c (c.shifted i phase new messages)
  /-- A reader begins to fill its collection. -/
  | fill {i : Nat} {r : Reader κ ι} (hr : c.readers[i]? = some r) (hp : r.phase = .entering)
      (hc : c.cells r.key = ⟨.empty, none⟩) : Transition family c (c.enter family i r)
  | finish {i : Nat} {r : Reader κ ι} {a : Nat} {result : Except ClientError (NamedList ι)}
      (hr : c.readers[i]? = some r) (hp : r.phase = .working a (.done result)) :
      Transition family c (c.finish i r a result)
  /-- One of several reads side by side has failed, and the others are given up. -/
  | fail {i : Nat} {r : Reader κ ι} {a : Nat} {children : List Nat}
      {next : Except ClientError (List (Listing ι)) → Population κ ι} {error : ClientError}
      (hr : c.readers[i]? = some r) (hp : r.phase = .awaitingReads a children next)
      (h : c.joined? children = some (.error error)) :
      Transition family c ((c.abandon children).setPhase i (.working a (next (.error error))))
  | giveUp {i : Nat} {r : Reader κ ι} (hr : c.readers[i]? = some r) (ha : r.ancestors = []) :
      Transition family c (c.abandon [i])

namespace Transition

variable {family : Family κ ι} {c d : Config κ ι} {i : Nat} {r : Reader κ ι}

theorem stay (family : Family κ ι) (c : Config κ ι) : Transition family c c :=
  .outside rfl rfl rfl rfl rfl

theorem of_move (hr : c.readers[i]? = some r) (h : Move family c i r d) :
    Transition family c d := by
  cases h with
  | shift h => exact .shift hr h
  | fill hp hc => exact .fill hr hp hc
  | finish hp => exact .finish hr hp
  | fail hp h => exact .fail hr hp h

/-- A turn of a reader is a transition, be it one in which it cannot move. -/
theorem of_advance (family : Family κ ι) (c : Config κ ι) (i : Nat) :
    Transition family c (c.advance family i) := by
  cases hr : c.readers[i]? with
  | none =>
    simp only [advance, hr]
    exact stay family c
  | some r =>
    rcases Move.of_advance family hr with ⟨-, hmove⟩ | ⟨-, hstays⟩
    · exact of_move hr hmove
    · rw [hstays]
      exact stay family c

/-- Every step is a transition. -/
theorem of_step (family : Family κ ι) (c : Config κ ι) (event : Event κ) :
    Transition family c (c.step family event) := by
  cases event with
  | start key => exact .start key
  | advance i => exact of_advance family c i
  | deliver request reply =>
    simp only [step, deliver]
    split
    · exact .outside rfl rfl rfl rfl rfl
    · exact stay family c
  | giveUp i =>
    cases hr : c.readers[i]? with
    | none =>
      simp only [step, Config.giveUp, hr]
      exact stay family c
    | some r =>
      simp only [step, Config.giveUp, hr]
      split
      · rename_i ha
        exact .giveUp hr ha
      · exact stay family c
  | disown key => exact .outside rfl rfl rfl rfl rfl

end Transition

/-- The last event of a run is a step from where the others have led. -/
theorem run_concat (family : Family κ ι) (events : List (Event κ)) (event : Event κ) :
    run family (events ++ [event]) = (run family events).step family event := by
  simp only [run, List.foldl_append, List.foldl_cons, List.foldl_nil]

/-- What every transition keeps is kept from any configuration on. -/
theorem foldl_induction {family : Family κ ι} {P : Config κ ι → Prop}
    (hstep : ∀ c d, P c → Transition family c d → P d) (events : List (Event κ))
    {c : Config κ ι} (h : P c) : P (events.foldl (step family) c) := by
  induction events generalizing c with
  | nil => exact h
  | cons event events ih => exact ih (hstep _ _ h (.of_step family c event))

/-- What holds at first and is kept by every transition holds after every run. -/
theorem run_induction {family : Family κ ι} {P : Config κ ι → Prop} (hinitial : P initial)
    (hstep : ∀ c d, P c → Transition family c d → P d) (events : List (Event κ)) :
    P (run family events) :=
  foldl_induction hstep events hinitial

end Config

end CubeClient.Deferred
