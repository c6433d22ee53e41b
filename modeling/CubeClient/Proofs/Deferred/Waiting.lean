import CubeClient.Deferred.Schedule
import CubeClient.Metadata.Collection
import CubeClient.Proofs.Deferred.Coherent
import CubeClient.Proofs.Deferred.Footprint
import Mathlib.Logic.Relation

/-!
# Waiting

A reader waits for an attempt on its own collection, or for the readers that it has started
itself. `WaitsFor` is this relation between readers. If the collections can be ranked so that each
is filled from lower ones only, then every reader that is waited for stands lower than the one that
waits, so nobody waits in a circle and somebody can always move (`Ranked`). The collections of the
tree have such a rank.
-/

namespace CubeClient.Deferred

/-- Every collection is filled from collections of a lower rank. -/
def Family.RankedBy {κ ι : Type} [Named ι] (family : Family κ ι) (rank : κ → Nat) : Prop :=
  ∀ key, (family.program key).Confined (fun _ => True) (fun key' => rank key' < rank key)

namespace Config

variable {κ ι : Type} [Named ι] {family : Family κ ι} {c d : Config κ ι} {i j a : Nat}
  {r s : Reader κ ι}

/-- A reader cannot go on before another one has: it waits for the attempt that the other makes, or
for the answer of the other. -/
inductive WaitsFor (c : Config κ ι) (i j : Nat) : Prop
  | attempt {r : Reader κ ι} {key : κ} {a : Nat} (hr : c.readers[i]? = some r)
      (hp : r.phase = .waiting a) (hj : c.Populates j key a)
  | answer {r : Reader κ ι} (hr : c.readers[i]? = some r) (hj : j ∈ r.phase.awaited)
      (hnone : c.result? j = none)

/-! ## Whom a reader waits for -/

/-- Whoever waits for an attempt that is under way waits for a reader of the same collection. -/
theorem Coherent.key_of_waiting (h : Coherent c) (hr : c.readers[i]? = some r)
    (hp : r.phase = .waiting a) {key : κ} (hj : c.Populates j key a) : key = r.key :=
  Option.some.inj ((h.attempt_of_populates hj).symm.trans (h.waiting hr hp))

/-- Readers that are waited for are not given up. -/
structure Attended (c : Config κ ι) : Prop where
  kept : ∀ {i j : Nat} {r s : Reader κ ι}, c.readers[i]? = some r → j ∈ r.phase.awaited →
    c.readers[j]? = some s → ∀ own, s.phase ≠ .abandoned own

theorem Attended.initial : Attended (Config.initial : Config κ ι) where
  kept h := by cases h

/-- A step gives up no reader that is still waited for. -/
theorem Attended.transition [DecidableEq κ] (h : Attended c) (hl : Linked c)
    (ht : Transition family c d) : Attended d := by
  refine ⟨fun {i j t s} htd hj hs own hdropped => ?_⟩
  have hawaits : t.phase.awaited ≠ [] := List.ne_nil_of_mem hj
  rcases ht.before htd with ⟨r, hr, hsame, hphase | hturn⟩ | ⟨-, hborn⟩
  · rw [hphase] at hj
    obtain ⟨q, hq, hancestors, -⟩ := hl.child hr hj
    obtain ⟨phase, hd, hstays⟩ := ht.reader hq
    obtain rfl : s = { q with phase } := Option.some.inj (hs.symm.trans hd)
    rcases hstays with rfl | hstays
    · exact h.kept hr hj hq own hdropped
    · simp only at hdropped
      subst hdropped
      cases hstays with
      | shift hshift => cases hshift
      | @drop roots hgone hcut =>
        -- the one that waits for it stays, so it can only be a root itself
        have hunder := hcut.kept htd hawaits
        have hroot : j ∈ roots := by
          simp only [isGone, isUnder, hancestors, List.any_cons, Bool.and_eq_true,
            Bool.or_eq_true] at hgone
          simp only [isUnder, hsame.ancestors, Bool.or_eq_false_iff] at hunder
          rcases hgone.1 with hself | hself | hself
          · exact List.contains_iff_mem.mp hself
          · rw [hunder.1] at hself
            cases hself
          · rw [hunder.2] at hself
            cases hself
        rcases hcut.root hroot with ⟨q', hq', htop⟩ | ⟨p, q', s', hq', hj', hs', hnone⟩
        · obtain rfl := Option.some.inj (hq.symm.trans hq')
          rw [hancestors] at htop
          cases htop
        · obtain ⟨s'', hs'', hancestors', -⟩ := hl.child hq' hj'
          obtain rfl := Option.some.inj (hq.symm.trans hs'')
          rw [hancestors] at hancestors'
          obtain ⟨rfl, -⟩ := List.cons.inj hancestors'
          obtain rfl := Option.some.inj (htd.symm.trans hs')
          exact hawaits hnone
  · obtain ⟨q, hq, hentering, -⟩ := hturn.awaited hj
    obtain rfl : s = q := Option.some.inj (hs.symm.trans hq)
    rw [hentering] at hdropped
    cases hdropped
  · rw [hborn.entering] at hj
    cases hj

/-- Reads side by side are waited for because one of them has not answered. -/
theorem exists_of_joined?_none {children : List Nat} (h : c.joined? children = none) :
    ∃ j ∈ children, c.result? j = none := by
  unfold joined? at h
  split at h
  · cases h
  · rename_i hnoerror
    obtain ⟨j, hj, hnone⟩ := exists_none_of_mapM (Option.map_eq_none_iff.mp h)
    refine ⟨j, hj, ?_⟩
    cases hresult : c.result? j with
    | none => rfl
    | some result =>
      cases result with
      | ok listing => rw [hresult] at hnone; cases hnone
      | error error =>
        have := List.findSome?_eq_none_iff.mp hnoerror j hj
        rw [hresult] at this
        cases this

/-- A reader that cannot move waits for another one that is not over, or for a reply. -/
theorem Coherent.exists_waitsFor (h : Coherent c) (ha : Attended c) (hr : c.readers[i]? = some r)
    (hlive : r.phase.isOver = false) (hstuck : c.canMove r = false) :
    (∃ a request next, r.phase = .awaitingReply a request next) ∨
      ∃ j s, WaitsFor c i j ∧ c.readers[j]? = some s ∧ s.phase.isOver = false := by
  have hchild : ∀ j, j ∈ r.phase.awaited → c.result? j = none →
      ∃ j s, WaitsFor c i j ∧ c.readers[j]? = some s ∧ s.phase.isOver = false := by
    intro j hj hnone
    obtain ⟨s, hs, -⟩ := h.linked.child hr hj
    refine ⟨j, s, .answer hr hj hnone, hs, ?_⟩
    cases hp : s.phase with
    | finished own result => rw [result?, hs, Option.bind_some, hp] at hnone; cases hnone
    | abandoned own => exact absurd hp (ha.kept hr hj hs own)
    | _ => rfl
  unfold canMove at hstuck
  cases hp : r.phase with
  | entering => rw [hp] at hstuck; cases hstuck
  | working a program => rw [hp] at hstuck; cases hstuck
  | waiting a =>
    rw [hp] at hstuck
    simp only [Bool.not_eq_eq_eq_not, Bool.not_false, List.contains_iff_mem] at hstuck
    obtain ⟨j, key, hj⟩ := h.guarded.running.mp hstuck
    have hwait : WaitsFor c i j := .attempt hr hp hj
    obtain ⟨s, hs, -, hactive⟩ := hj
    exact Or.inr ⟨j, s, hwait, hs, Phase.isOver_of_active? hactive⟩
  | awaitingReply a request next => exact Or.inl ⟨a, request, next, rfl⟩
  | awaitingRead a child next =>
    rw [hp] at hstuck
    simp only [Option.isSome_eq_false_iff, Option.isNone_iff_eq_none] at hstuck
    exact Or.inr (hchild child (by rw [hp]; exact List.mem_singleton.mpr rfl) hstuck)
  | awaitingReads a children next =>
    rw [hp] at hstuck
    simp only [Option.isSome_eq_false_iff, Option.isNone_iff_eq_none] at hstuck
    obtain ⟨j, hj, hnone⟩ := exists_of_joined?_none hstuck
    exact Or.inr (hchild j (by rw [hp]; exact hj) hnone)
  | finished own result => rw [hp] at hlive; cases hlive
  | abandoned own => rw [hp] at hlive; cases hlive

/-! ## Collections that are filled from lower ones -/

/-- Readers are started for collections of a lower rank only. -/
structure Ranked (rank : κ → Nat) (c : Config κ ι) : Prop where
  confined : ∀ {i : Nat} {r : Reader κ ι}, c.readers[i]? = some r →
    r.phase.Confined (fun _ => True) (fun key => rank key < rank r.key)
  descends : ∀ {i j : Nat} {r s : Reader κ ι} {rest : List Nat}, c.readers[j]? = some s →
    s.ancestors = i :: rest → c.readers[i]? = some r → rank s.key < rank r.key

namespace Ranked

variable {rank : κ → Nat}

theorem initial : Ranked rank (Config.initial : Config κ ι) where
  confined h := by cases h
  descends h := by cases h

/-- A step starts readers only for collections of a lower rank. -/
theorem transition [DecidableEq κ] (h : Ranked rank c) (hfamily : family.RankedBy rank)
    (hl : Linked c) (ht : Transition family c d) : Ranked rank d where
  confined {i s} hs := by
    rcases ht.before hs with ⟨r, hr, hsame, hphase | hturn⟩ | ⟨-, hborn⟩
    · rw [hphase, hsame.key]
      exact h.confined hr
    · rw [hsame.key]
      exact hturn.confined (hfamily r.key) (h.confined hr)
    · rw [hborn.entering]
      trivial
  descends {i j r s rest} hs ha hr := by
    rcases ht.before hs with ⟨s', hs', hsame, -⟩ | ⟨-, hborn⟩
    · have ha' : s'.ancestors = i :: rest := hsame.ancestors ▸ ha
      have hi : i < c.readers.length :=
        Nat.lt_trans (hl.older hs' (ha' ▸ List.mem_cons_self))
          (List.getElem?_eq_some_iff.mp hs').1
      rcases ht.before hr with ⟨r', hr', hsame', -⟩ | ⟨hn, -⟩
      · rw [hsame.key, hsame'.key]
        exact h.descends hs' ha' hr'
      · exact absurd (List.getElem?_eq_none_iff.mp hn) (Nat.not_le.mpr hi)
    · cases hborn with
      | outside _ ha' => rw [ha] at ha'; cases ha'
      | inside _ hq hprogram hreads ha' _ hd =>
        rw [ha] at ha'
        obtain ⟨rfl, -⟩ := List.cons.inj ha'
        obtain rfl := Option.some.inj (hr.symm.trans hd)
        have hconfined := h.confined hq
        rw [hprogram] at hconfined
        exact hconfined.readsNow hreads

/-- How far down a reader stands: below everybody who waits for it. -/
def depth (rank : κ → Nat) (r : Reader κ ι) : Nat :=
  match r.phase with
  | .waiting _ => 2 * rank r.key + 1
  | _ => 2 * rank r.key

theorem depth_le (rank : κ → Nat) (r : Reader κ ι) : depth rank r ≤ 2 * rank r.key + 1 := by
  unfold depth
  split
  · exact Nat.le_refl _
  · exact Nat.le_succ _

/-- Whoever fills a collection stands below those that wait for it. -/
theorem depth_of_active (rank : κ → Nat) {r : Reader κ ι} (h : r.phase.active? = some a) :
    depth rank r = 2 * rank r.key := by
  unfold depth
  split
  · rename_i hp
    rw [hp] at h
    cases h
  · rfl

/-- Whoever is waited for stands lower. -/
theorem depth_lt (h : Ranked rank c) (hc : Coherent c) (hwait : WaitsFor c i j) :
    ∃ r s, c.readers[i]? = some r ∧ c.readers[j]? = some s ∧ depth rank s < depth rank r := by
  cases hwait with
  | @attempt r key a hr hp hj =>
    obtain rfl := hc.key_of_waiting hr hp hj
    obtain ⟨s, hs, hkey, hactive⟩ := hj
    refine ⟨r, s, hr, hs, ?_⟩
    rw [depth_of_active rank hactive, hkey]
    simp only [depth, hp]
    exact Nat.lt_succ_self _
  | @answer r hr hj _ =>
    obtain ⟨s, hs, hancestors, -⟩ := hc.linked.child hr hj
    obtain ⟨a, hactive⟩ := Phase.active?_of_awaited hj
    refine ⟨r, s, hr, hs, ?_⟩
    have hlt := h.descends hs hancestors hr
    have hle := depth_le rank s
    rw [depth_of_active rank hactive]
    omega

/-- Nobody waits in a circle. -/
theorem acyclic (h : Ranked rank c) (hc : Coherent c) (i : Nat) :
    ¬ Relation.TransGen (WaitsFor c) i i := by
  have hdown : ∀ {j k : Nat}, Relation.TransGen (WaitsFor c) j k →
      ∃ r s, c.readers[j]? = some r ∧ c.readers[k]? = some s ∧ depth rank s < depth rank r := by
    intro j k hjk
    induction hjk with
    | single hstep => exact h.depth_lt hc hstep
    | tail _ hstep ih =>
      obtain ⟨r, s, hr, hs, hlt⟩ := ih
      obtain ⟨s', t, hs', ht, hlt'⟩ := h.depth_lt hc hstep
      obtain rfl := Option.some.inj (hs.symm.trans hs')
      exact ⟨r, t, hr, ht, Nat.lt_trans hlt' hlt⟩
  intro hcircle
  obtain ⟨r, s, hr, hs, hlt⟩ := hdown hcircle
  obtain rfl := Option.some.inj (hr.symm.trans hs)
  exact Nat.lt_irrefl _ hlt

/-- Whoever is not over waits, in the end, for a reader that can move or that waits for a reply. -/
theorem exists_mover (h : Ranked rank c) (hc : Coherent c) (ha : Attended c)
    (hr : c.readers[i]? = some r) (hlive : r.phase.isOver = false) :
    ∃ j s, Relation.ReflTransGen (WaitsFor c) i j ∧ c.readers[j]? = some s ∧
      (c.canMove s = true ∨ ∃ a request next, s.phase = .awaitingReply a request next) := by
  induction hdepth : depth rank r using Nat.strongRecOn generalizing i r with
  | ind n ih =>
    by_cases hmove : c.canMove r = true
    · exact ⟨i, r, .refl, hr, Or.inl hmove⟩
    · rcases hc.exists_waitsFor ha hr hlive (Bool.eq_false_iff.mpr hmove) with hreply | hwaits
      · exact ⟨i, r, .refl, hr, Or.inr hreply⟩
      · obtain ⟨j, s, hwait, hs, hslive⟩ := hwaits
        obtain ⟨r', s', hr', hs', hlt⟩ := h.depth_lt hc hwait
        obtain rfl := Option.some.inj (hr.symm.trans hr')
        obtain rfl := Option.some.inj (hs.symm.trans hs')
        obtain ⟨k, t, hpath, ht, hmoves⟩ := ih _ (hdepth ▸ hlt) hs hslive rfl
        exact ⟨k, t, .head hwait hpath, ht, hmoves⟩

end Ranked

/-! ## Runs -/

variable [DecidableEq κ]

/-- No wake-up is lost: the attempt that a reader waits for is either under way, by a reader that
fills the same collection, or over, and then the reader can go on. -/
structure Woken (family : Family κ ι) (c : Config κ ι) : Prop where
  running : ∀ {i a : Nat} {r : Reader κ ι}, c.readers[i]? = some r → r.phase = .waiting a →
    a ∈ c.running → (c.cells r.key).state = .populating a ∧ ∃ j, c.Populates j r.key a
  ended : ∀ {i a : Nat} {r : Reader κ ι}, c.readers[i]? = some r → r.phase = .waiting a →
    a ∉ c.running → (c.advance family i).readers[i]? = some { r with phase := .entering }

/-- Nobody waits in a circle, and behind everybody who waits somebody can move or has a message out
to the server. -/
structure Unblocked (c : Config κ ι) : Prop where
  acyclic : ∀ i, ¬ Relation.TransGen (WaitsFor c) i i
  moves : ∀ {i : Nat} {r : Reader κ ι}, c.readers[i]? = some r → r.phase.isOver = false →
    ∃ j s, Relation.ReflTransGen (WaitsFor c) i j ∧ c.readers[j]? = some s ∧
      (c.canMove s = true ∨ ∃ a request next, s.phase = .awaitingReply a request next)

/-- No wake-up is lost, since an attempt runs exactly as long as somebody is at it. -/
theorem Coherent.woken (h : Coherent c) (family : Family κ ι) : Woken family c where
  running {i a r} hr hp ha := by
    obtain ⟨j, key, hj⟩ := h.guarded.running.mp ha
    obtain rfl := h.key_of_waiting hr hp hj
    exact ⟨h.guarded.populating.mpr ⟨j, hj⟩, j, hj⟩
  ended {i a r} hr hp ha := by
    have he : c.advance family i = c.setPhase i .entering := by
      simp only [advance, hr, hp, if_neg ha]
    rw [he, getElem?_setPhase_self hr]

theorem Attended.run (family : Family κ ι) (events : List (Event κ)) :
    Attended (run family events) :=
  Coherent.run_induction .initial (fun _ _ hc h ht => h.transition hc.linked ht) events

theorem Ranked.run {rank : κ → Nat} (hfamily : family.RankedBy rank) (events : List (Event κ)) :
    Ranked rank (run family events) :=
  Coherent.run_induction .initial (fun _ _ hc h ht => h.transition hfamily hc.linked ht) events

/-- Collections that are filled from lower ones never block each other. -/
theorem unblocked_of_rankedBy {rank : κ → Nat} (hfamily : family.RankedBy rank)
    (events : List (Event κ)) : Unblocked (run family events) where
  acyclic := (Ranked.run hfamily events).acyclic (.run family events)
  moves := (Ranked.run hfamily events).exists_mover (.run family events) (.run family events)

/-- Two collections, each of which is filled from the other. -/
def crossing (ι : Type) [Named ι] : Family Bool ι where
  label _ := ""
  program key := .read (!key) fun _ => .done (.ok .empty)

/-- Both are read from outside, and both readers get as far as they can. -/
def crossingRun (ι : Type) [Named ι] : Config Bool ι :=
  run (crossing ι) [.start true, .start false, .advance 0, .advance 1, .advance 0, .advance 1,
    .advance 2, .advance 3]

/-- Each of the two waits for the read that it has issued, and that read for the attempt of the
other. -/
theorem readers_crossingRun (ι : Type) [Named ι] :
    (crossingRun ι).readers =
      [⟨true, [], [], .awaitingRead 0 2 fun _ => .done (.ok .empty)⟩,
        ⟨false, [], [], .awaitingRead 1 3 fun _ => .done (.ok .empty)⟩,
        ⟨false, [0], [true], .waiting 1⟩, ⟨true, [1], [false], .waiting 0⟩] := by
  rfl

/-- Without a rank there can be a circle: no reader of it reads for itself, and none is refused. -/
theorem crossingRun_circle (ι : Type) [Named ι] :
    Relation.TransGen (WaitsFor (crossingRun ι)) 0 0 := by
  have hreaders := readers_crossingRun ι
  have h₀ : WaitsFor (crossingRun ι) 0 2 :=
    .answer (by rw [hreaders]; rfl) (List.mem_singleton.mpr rfl) (by rw [result?, hreaders]; rfl)
  have h₁ : WaitsFor (crossingRun ι) 2 1 :=
    .attempt (by rw [hreaders]; rfl) rfl ⟨_, by rw [hreaders]; rfl, rfl, rfl⟩
  have h₂ : WaitsFor (crossingRun ι) 1 3 :=
    .answer (by rw [hreaders]; rfl) (List.mem_singleton.mpr rfl) (by rw [result?, hreaders]; rfl)
  have h₃ : WaitsFor (crossingRun ι) 3 0 :=
    .attempt (by rw [hreaders]; rfl) rfl ⟨_, by rw [hreaders]; rfl, rfl, rfl⟩
  exact .head h₀ (.head h₁ (.head h₂ (.single h₃)))

end Config

end CubeClient.Deferred

namespace CubeClient

open CubeClient.Deferred

/-! ## The collections of the tree -/

/-- How far a collection reads: derived lists read all others, the dimensions of a measure group
those of the cube, and nobody else reads anything. -/
def TreeKey.rank : TreeKey → Nat
  | .derived _ => 2
  | .listed c => if c.kind = .groupDimensions then 1 else 0

/-- A handler reads collections of a lower rank only. -/
theorem Collection.confined_handler (c : Collection) (row : Xml.Element)
    (list : NamedList MetadataObject) :
    (c.handler row list).Confined (fun _ => True)
      (fun key => key.rank < (TreeKey.listed c).rank) := by
  unfold handler
  split
  · rename_i hkind
    unfold resolveDimension
    split
    · trivial
    · split
      · trivial
      · intro answer
        cases answer with
        | false => trivial
        | true =>
          refine ⟨by simp [TreeKey.rank, hkind, cubeDimensions], fun result => ?_⟩
          cases result <;> trivial
  · split <;> trivial

/-- The collections of the tree are filled from lower ones only. -/
theorem TreeKey.rankedBy_rank : TreeKey.family.RankedBy TreeKey.rank := by
  intro key
  cases key with
  | listed c => exact confined_populate c.confined_handler fun _ _ _ => trivial
  | derived c =>
    refine ⟨?_, fun result => ?_⟩
    · simp only [rank]
      split <;> omega
    · cases result with
      | error error => trivial
      | ok dimensions =>
        refine ⟨fun key hkey => ?_, fun result => ?_⟩
        · obtain ⟨d, -, rfl⟩ := List.mem_map.mp hkey
          simp [rank]
        · cases result <;> trivial

/-- Nobody misses the end of the attempt that it waits for, whatever the collections are; and the
collections of the tree never block each other. -/
theorem waits_end :
    (∀ {κ ι : Type} [DecidableEq κ] [Named ι] (family : Family κ ι) (events : List (Event κ)),
      Config.Woken family (Config.run family events)) ∧
    ∀ events : List (Event TreeKey), Config.Unblocked (Config.run TreeKey.family events) :=
  ⟨fun family events => (Config.Coherent.run family events).woken family,
    fun events => Config.unblocked_of_rankedBy TreeKey.rankedBy_rank events⟩

end CubeClient
