import CubeClient.Proofs.Deferred.Replies
import CubeClient.Proofs.Deferred.Waiting
import Mathlib.Algebra.Order.BigOperators.Group.List
import Mathlib.Data.Finset.Card
import Mathlib.Logic.Hydra
import Mathlib.Tactic.Abel

/-!
# Coming to rest

Without new reads, things come to an end: readers cannot move for ever, and only as many replies can
arrive as messages are out. What makes this go down is the work that is left. A reader with a
program has less to do after each step of it, and whom it starts for reads of its own has a
collection of a lower rank to fill, so the work of one is replaced by finitely many smaller ones
(`Move.calmer`). The steps that leave all work as it is, to begin to wait and to look again, can
only be taken as long as no attempt begins or ends, which is not for ever.

At rest a read can only be held up by an attempt that waits for a read of its own (`Resting.held`).
Where collections are filled from lower ones, every read is over (`Resting.isOver`), and nobody but
whoever issued a read from outside has given it up (`mem_of_abandoned`), so all others have answered
(`Resting.answered`).
-/

namespace CubeClient.Deferred

variable {κ ι : Type} [Named ι]

/-- What is left to do for a read. -/
inductive Left (κ ι : Type) [Named ι] where
  | all
  | program (program : Population κ ι)
  | reply (next : Reply → Population κ ι)
  | result (next : ReadResult ι → Population κ ι)
  | joined (next : Except ClientError (List (Listing ι)) → Population κ ι)

namespace Left

/-- One step less. -/
inductive Less : Left κ ι → Left κ ι → Prop
  | begun (program : Population κ ι) : Less (.program program) .all
  | sent {message : Message} {next : Reply → Population κ ι} :
      Less (.reply next) (.program (.send message next))
  | heard {next : Reply → Population κ ι} (reply : Reply) :
      Less (.program (next reply)) (.reply next)
  | owned {key : κ} {next : Bool → Population κ ι} (answer : Bool) :
      Less (.program (next answer)) (.program (.owned key next))
  | asked {key : κ} {next : ReadResult ι → Population κ ι} :
      Less (.result next) (.program (.read key next))
  | told {next : ReadResult ι → Population κ ι} (result : ReadResult ι) :
      Less (.program (next result)) (.result next)
  | askedAll {keys : List κ} {next : Except ClientError (List (Listing ι)) → Population κ ι} :
      Less (.joined next) (.program (.readAll keys next))
  | toldAll {next : Except ClientError (List (Listing ι)) → Population κ ι}
      (answers : Except ClientError (List (Listing ι))) :
      Less (.program (next answers)) (.joined next)

theorem acc_reply {next : Reply → Population κ ι} (h : ∀ reply, Acc Less (.program (next reply))) :
    Acc Less (.reply next) := by
  refine .intro _ fun y hy => ?_
  cases hy with
  | heard reply => exact h reply

theorem acc_result {next : ReadResult ι → Population κ ι}
    (h : ∀ result, Acc Less (.program (next result))) : Acc Less (.result next) := by
  refine .intro _ fun y hy => ?_
  cases hy with
  | told result => exact h result

theorem acc_joined {next : Except ClientError (List (Listing ι)) → Population κ ι}
    (h : ∀ answers, Acc Less (.program (next answers))) : Acc Less (.joined next) := by
  refine .intro _ fun y hy => ?_
  cases hy with
  | toldAll answers => exact h answers

/-- A program cannot be gone on with for ever. -/
theorem acc_program (program : Population κ ι) : Acc Less (.program program) := by
  induction program with
  | done result =>
    refine .intro _ fun y hy => ?_
    cases hy
  | send message next ih =>
    refine .intro _ fun y hy => ?_
    cases hy with
    | sent => exact acc_reply ih
  | owned key next ih =>
    refine .intro _ fun y hy => ?_
    cases hy with
    | owned answer => exact ih answer
  | read key next ih =>
    refine .intro _ fun y hy => ?_
    cases hy with
    | asked => exact acc_result ih
  | readAll keys next ih =>
    refine .intro _ fun y hy => ?_
    cases hy with
    | askedAll => exact acc_joined ih

/-- What is left of a read cannot become less for ever. -/
theorem wellFounded_less : WellFounded (Less : Left κ ι → Left κ ι → Prop) := by
  refine ⟨fun x => ?_⟩
  cases x with
  | all =>
    refine .intro _ fun y hy => ?_
    cases hy with
    | begun program => exact acc_program program
  | program program => exact acc_program program
  | reply next => exact acc_reply fun reply => acc_program (next reply)
  | result next => exact acc_result fun result => acc_program (next result)
  | joined next => exact acc_joined fun answers => acc_program (next answers)

end Left

/-- What is left to do for a read in some phase. -/
def Phase.left? : Phase κ ι → Option (Left κ ι)
  | .entering => some .all
  | .waiting _ => some .all
  | .working _ program => some (.program program)
  | .awaitingReply _ _ next => some (.reply next)
  | .awaitingRead _ _ next => some (.result next)
  | .awaitingReads _ _ next => some (.joined next)
  | .finished _ _ => none
  | .abandoned _ => none

/-- How many steps a read can take before anything else changes. -/
def Phase.steps (running : List Nat) : Phase κ ι → Nat
  | .entering => 1
  | .waiting attempt => if attempt ∈ running then 0 else 2
  | _ => 0

namespace Config

variable {family : Family κ ι} {c d : Config κ ι} {i j : Nat} {q r s : Reader κ ι} {rank : κ → Nat}

/-- The work for a reader, together with the rank of its collection. -/
def load (rank : κ → Nat) (r : Reader κ ι) : Multiset (Nat × Left κ ι) :=
  r.phase.left?.elim 0 fun left => {(rank r.key, left)}

/-- All work that is left. -/
def loads (rank : κ → Nat) (c : Config κ ι) : Multiset (Nat × Left κ ι) :=
  (c.readers.map (load rank)).sum

/-- Work for a collection of a lower rank, or less work for one of the same rank. -/
abbrev Lighter : Nat × Left κ ι → Nat × Left κ ι → Prop :=
  Prod.Lex (· < ·) Left.Less

/-- Some work is replaced by lighter work. -/
abbrev LighterAll : Multiset (Nat × Left κ ι) → Multiset (Nat × Left κ ι) → Prop :=
  Relation.TransGen (Relation.CutExpand Lighter)

/-- Finitely many works cannot be replaced by lighter ones for ever. -/
theorem wellFounded_lighterAll :
    WellFounded (LighterAll : Multiset (Nat × Left κ ι) → Multiset (Nat × Left κ ι) → Prop) :=
  (WellFounded.cutExpand (WellFounded.prod_lex Nat.lt_wfRel.wf Left.wellFounded_less)).transGen

/-! ## Sums over readers -/

/-- Changing one item of a list changes a sum over it by that item. -/
theorem sum_map_modify {α M : Type} [AddCommMonoid M] (f : α → M) (g : α → α) {l : List α} {n : Nat}
    {x : α} (h : l[n]? = some x) :
    ((l.modify n g).map f).sum + f x = (l.map f).sum + f (g x) := by
  induction l generalizing n with
  | nil => cases h
  | cons y l ih =>
    cases n with
    | zero =>
      obtain rfl := Option.some.inj h
      simp only [List.modify_zero_cons, List.map_cons, List.sum_cons]
      abel
    | succ n =>
      simp only [List.modify_succ_cons, List.map_cons, List.sum_cons]
      rw [add_assoc, ih (by simpa using h), add_assoc]

theorem loads_setPhase (rank : κ → Nat) (hr : c.readers[i]? = some r) (phase : Phase κ ι) :
    (c.setPhase i phase).loads rank + load rank r =
      c.loads rank + load rank { r with phase } :=
  sum_map_modify (load rank) (fun reader => { reader with phase }) hr

/-- A shift replaces the work of the reader and adds that of new ones. -/
theorem loads_shifted (rank : κ → Nat) (hr : c.readers[i]? = some r) (phase : Phase κ ι)
    (new : List (Reader κ ι)) (messages : List Sent) :
    (c.shifted i phase new messages).loads rank + load rank r =
      c.loads rank + (load rank { r with phase } + (new.map (load rank)).sum) := by
  have hmoved := loads_setPhase rank hr phase
  rw [loads, shifted, List.map_append, List.sum_append, add_right_comm, ← add_assoc]
  exact congrArg (· + _) hmoved

theorem loads_of_readers (h : d.readers = c.readers) : d.loads rank = c.loads rank := by
  rw [loads, h]
  rfl

/-- Readers of collections of a lower rank have lighter work. -/
theorem lighter_of_mem_sum {new : List (Reader κ ι)} {left : Left κ ι}
    (hnew : ∀ s ∈ new, rank s.key < rank r.key) :
    ∀ x ∈ (new.map (load rank)).sum, Lighter x (rank r.key, left) := by
  induction new with
  | nil => exact fun x hx => (Multiset.notMem_zero x hx).elim
  | cons s new ih =>
    intro x hx
    rw [List.map_cons, List.sum_cons, Multiset.mem_add] at hx
    rcases hx with hx | hx
    · cases hless : s.phase.left? with
      | none => simp [load, hless] at hx
      | some less =>
        simp only [load, hless, Option.elim, Multiset.mem_singleton] at hx
        exact hx ▸ .left _ _ (hnew s List.mem_cons_self)
    · exact ih (fun s hs => hnew s (List.mem_cons_of_mem _ hs)) x hx

/-- The work of a reader is replaced by less of its own and work of a lower rank. -/
theorem lighterAll_shifted {left : Left κ ι} {phase : Phase κ ι} {new : List (Reader κ ι)}
    {messages : List Sent} (hr : c.readers[i]? = some r) (hleft : r.phase.left? = some left)
    (hphase : ∀ less, phase.left? = some less → Left.Less less left)
    (hnew : ∀ s ∈ new, rank s.key < rank r.key) :
    LighterAll ((c.shifted i phase new messages).loads rank) (c.loads rank) := by
  have hload : load rank r = {(rank r.key, left)} := by rw [load, hleft]; rfl
  have hloads := loads_shifted rank hr phase new messages
  rw [hload] at hloads
  refine .single ⟨_, _, fun x hx => ?_, hloads⟩
  rcases Multiset.mem_add.mp hx with hx | hx
  · cases hless : phase.left? with
    | none => simp [load, hless] at hx
    | some less =>
      simp only [load, hless, Option.elim, Multiset.mem_singleton] at hx
      exact hx ▸ .right _ (hphase less hless)
  · exact lighter_of_mem_sum hnew x hx

theorem lighterAll_setPhase {left : Left κ ι} {phase : Phase κ ι} (hr : c.readers[i]? = some r)
    (hleft : r.phase.left? = some left)
    (hphase : ∀ less, phase.left? = some less → Left.Less less left) :
    LighterAll ((c.setPhase i phase).loads rank) (c.loads rank) := by
  rw [← shifted_nil]
  exact lighterAll_shifted hr hleft hphase fun s hs => (List.not_mem_nil hs).elim

theorem LighterAll.of_le {s t u : Multiset (Nat × Left κ ι)} (h : LighterAll s t) (hle : t ≤ u) :
    LighterAll s u := by
  obtain ⟨rest, rfl⟩ := Multiset.le_iff_exists_add.mp hle
  induction rest using Multiset.induction_on with
  | empty => rwa [add_zero]
  | cons x rest ih =>
    refine .tail (ih (Multiset.le_add_right _ _))
      ⟨0, x, fun _ hx => (Multiset.notMem_zero _ hx).elim, ?_⟩
    rw [add_zero, Multiset.add_cons, ← Multiset.singleton_add, add_comm]

/-! ## Moves -/

/-- The steps that readers can take while all work stays as it is, and the messages that have no
reply. -/
def pending (c : Config κ ι) : Nat :=
  (c.readers.map fun r => r.phase.steps c.running).sum +
    ((Finset.range c.sent.length).filter fun q => c.reply? q = none).card

/-- Less work, or as much work and less to do about it. -/
def Calmer (rank : κ → Nat) (d c : Config κ ι) : Prop :=
  Prod.Lex LighterAll (· < ·) (d.loads rank, d.pending) (c.loads rank, c.pending)

/-- Configurations cannot become calmer for ever. -/
theorem wellFounded_calmer (rank : κ → Nat) :
    WellFounded (Calmer rank : Config κ ι → Config κ ι → Prop) :=
  InvImage.wf (fun c : Config κ ι => (c.loads rank, c.pending))
    (WellFounded.prod_lex wellFounded_lighterAll Nat.lt_wfRel.wf)

theorem Calmer.of_loads (h : LighterAll (d.loads rank) (c.loads rank)) : Calmer rank d c :=
  .left _ _ h

theorem Calmer.of_pending (h : d.loads rank = c.loads rank) (hlt : d.pending < c.pending) :
    Calmer rank d c := by
  rw [Calmer, h]
  exact .right _ hlt

/-- A reader that begins to wait, or looks again. -/
theorem Calmer.of_setPhase {phase : Phase κ ι} (hr : c.readers[i]? = some r)
    (hleft : phase.left? = r.phase.left?) (hlt : phase.steps c.running < r.phase.steps c.running) :
    Calmer rank (c.setPhase i phase) c := by
  have hload : load rank { r with phase } = load rank r := by simp only [load, hleft]
  have hloads := loads_setPhase rank hr phase
  rw [hload] at hloads
  refine .of_pending (add_right_cancel hloads) (Nat.add_lt_add_right ?_ _)
  have hsum := sum_map_modify (fun r : Reader κ ι => r.phase.steps c.running)
    (fun reader => { reader with phase }) hr
  simp only at hsum
  simp only [setPhase]
  omega

/-- The readers that a reader starts have collections of a lower rank. -/
theorem Shift.rank_lt {phase : Phase κ ι} {new : List (Reader κ ι)} {messages : List Sent}
    (h : Shift family c i r phase new messages)
    (hr : r.phase.Confined (fun _ => True) fun key => rank key < rank r.key) :
    ∀ s ∈ new, rank s.key < rank r.key := by
  have hchildren : ∀ keys : List κ, (∀ key ∈ keys, rank key < rank r.key) →
      ∀ s ∈ childReaders i r keys, rank s.key < rank r.key := by
    intro keys hkeys s hs
    obtain ⟨key, hkey, rfl⟩ := List.mem_map.mp hs
    exact hkeys key hkey
  cases h with
  | @read _ key _ hp =>
    rw [hp] at hr
    exact hchildren [key] fun k hk => List.mem_singleton.mp hk ▸ hr.1
  | readAll hp =>
    rw [hp] at hr
    exact hchildren _ hr.1
  | _ => exact fun s hs => (List.not_mem_nil hs).elim

/-- A shift leaves less to do, unless the reader begins to wait or looks again. -/
theorem Shift.less_or_idle {phase : Phase κ ι} {new : List (Reader κ ι)} {messages : List Sent}
    (h : Shift family c i r phase new messages) :
    (∃ left, r.phase.left? = some left ∧ ∀ less, phase.left? = some less → Left.Less less left) ∨
      ((∃ a, r.phase = .entering ∧ (c.cells r.key).state = .populating a ∧ phase = .waiting a) ∨
        ∃ a, r.phase = .waiting a ∧ a ∉ c.running ∧ phase = .entering) ∧
        new = [] ∧ messages = [] := by
  cases h with
  | wait hp hs => exact .inr ⟨.inl ⟨_, hp, hs, rfl⟩, rfl, rfl⟩
  | wake hp ha => exact .inr ⟨.inr ⟨_, hp, ha, rfl⟩, rfl, rfl⟩
  | hit hp | refuse hp => exact .inl ⟨_, by rw [hp]; rfl, fun less hless => by cases hless⟩
  | send hp => exact .inl ⟨_, by rw [hp]; rfl, fun less hless => by cases hless; exact .sent⟩
  | owned hp => exact .inl ⟨_, by rw [hp]; rfl, fun less hless => by cases hless; exact .owned _⟩
  | read hp => exact .inl ⟨_, by rw [hp]; rfl, fun less hless => by cases hless; exact .asked⟩
  | readAll hp => exact .inl ⟨_, by rw [hp]; rfl, fun less hless => by cases hless; exact .askedAll⟩
  | reply hp => exact .inl ⟨_, by rw [hp]; rfl, fun less hless => by cases hless; exact .heard _⟩
  | result hp => exact .inl ⟨_, by rw [hp]; rfl, fun less hless => by cases hless; exact .told _⟩
  | joined hp => exact .inl ⟨_, by rw [hp]; rfl, fun less hless => by cases hless; exact .toldAll _⟩

/-- Every shift leaves less to do, or as much and one step less of those that change nothing. -/
theorem Shift.calmer {phase : Phase κ ι} {new : List (Reader κ ι)} {messages : List Sent}
    (h : Shift family c i r phase new messages) (hc : Coherent c) (hrank : Ranked rank c)
    (hr : c.readers[i]? = some r) : Calmer rank (c.shifted i phase new messages) c := by
  rcases h.less_or_idle with ⟨left, hleft, hless⟩ | ⟨hidle, rfl, rfl⟩
  · exact .of_loads (lighterAll_shifted hr hleft hless (h.rank_lt (hrank.confined hr)))
  · rw [shifted_nil]
    rcases hidle with ⟨a, hp, hs, rfl⟩ | ⟨a, hp, ha, rfl⟩
    · -- the attempt that the reader waits for is running
      refine .of_setPhase hr (by rw [hp]; rfl) ?_
      obtain ⟨j, hj⟩ := hc.guarded.populating.mp hs
      have hrunning := hc.guarded.running.mpr ⟨j, _, hj⟩
      simp only [hp, Phase.steps, if_pos hrunning, Nat.zero_lt_one]
    · refine .of_setPhase hr (by rw [hp]; rfl) ?_
      simp only [hp, Phase.steps, if_neg ha, Nat.one_lt_two]

/-- A reply that arrives is one less to come. -/
theorem pending_deliver {q : Nat} (reply : Reply) (hq : q < c.sent.length)
    (hnone : c.reply? q = none) : (c.deliver q reply).pending < c.pending := by
  obtain ⟨hdeliver, hreply⟩ := reply?_deliver reply hq hnone
  have hkept : ∀ p, (c.deliver q reply).reply? p = none → c.reply? p = none := by
    intro p hp
    cases hold : c.reply? p with
    | none => rfl
    | some other =>
      have hsome : (c.deliver q reply).reply? p = some other :=
        reply?_of_prefix (hdeliver ▸ List.prefix_append _ _) hold
      rw [hsome] at hp
      cases hp
  have hfewer : (Finset.range c.sent.length).filter (fun p => (c.deliver q reply).reply? p = none) ⊂
      (Finset.range c.sent.length).filter fun p => c.reply? p = none := by
    refine ⟨Finset.monotone_filter_right _ fun p _ => hkept p, fun hsub => ?_⟩
    have hq' := hsub (Finset.mem_filter.mpr ⟨Finset.mem_range.mpr hq, hnone⟩)
    rw [(Finset.mem_filter.mp hq').2] at hreply
    cases hreply
  have hlt := Finset.card_lt_card hfewer
  rw [hdeliver] at hlt ⊢
  exact Nat.add_lt_add_left hlt _

variable [DecidableEq κ]

/-- Giving up readers leaves no more work than there was. -/
theorem loads_abandon_le (c : Config κ ι) (roots : List Nat) :
    (c.abandon roots).loads rank ≤ c.loads rank := by
  have hreaders : (c.abandon roots).readers = c.readers.mapIdx (dropped roots) := by
    refine List.ext_getElem? fun n => ?_
    rw [getElem?_abandon, List.getElem?_mapIdx]
  have hload : ∀ (n : Nat) (r : Reader κ ι), load rank (dropped roots n r) ≤ load rank r := by
    intro n r
    by_cases hg : isGone roots n r = true
    · rw [dropped_of_isGone hg]
      exact Multiset.zero_le _
    · rw [dropped_of_not_isGone (Bool.eq_false_iff.mpr hg)]
  rw [loads, loads, hreaders]
  generalize c.readers = readers
  generalize (dropped roots : Nat → Reader κ ι → Reader κ ι) = drop at hload ⊢
  induction readers generalizing drop with
  | nil => exact le_refl _
  | cons r readers ih =>
    rw [List.mapIdx_cons, List.map_cons, List.map_cons, List.sum_cons, List.sum_cons]
    exact add_le_add (hload 0 r) (ih (fun n => drop (n + 1)) fun n r => hload (n + 1) r)

/-- Every move leaves less to do. -/
theorem Move.calmer (h : Move family c i r d) (hc : Coherent c) (hrank : Ranked rank c)
    (hr : c.readers[i]? = some r) : Calmer rank d c := by
  cases h with
  | shift h => exact h.calmer hc hrank hr
  | fill hp hempty =>
    refine .of_loads ?_
    rw [loads_of_readers (enter_of_empty hempty).1]
    refine lighterAll_setPhase hr (by rw [hp]; rfl) fun less hless => ?_
    cases hless
    exact .begun _
  | @finish a result hp =>
    refine .of_loads ?_
    rw [loads_of_readers (finish_eq c i r a result).1]
    refine lighterAll_setPhase hr (by rw [hp]; rfl) fun less hless => ?_
    cases hless
  | @fail a children next error hp _ =>
    have hkept : (c.abandon children).readers[i]? = some r := hc.linked.kept hr (by rw [hp]; rfl)
    refine .of_loads (.of_le ?_ (loads_abandon_le c children))
    refine lighterAll_setPhase hkept (by rw [hp]; rfl) fun less hless => ?_
    cases hless
    exact .toldAll _

/-! ## What can still happen by itself -/

/-- A reader moves that can, or a reply arrives that is due. -/
inductive Goes (family : Family κ ι) (c : Config κ ι) : Config κ ι → Prop
  | advance {i : Nat} {r : Reader κ ι} (hr : c.readers[i]? = some r) (h : c.canMove r = true) :
      Goes family c (c.advance family i)
  | deliver {q : Nat} (reply : Reply) (hq : q < c.sent.length) (hnone : c.reply? q = none) :
      Goes family c (c.deliver q reply)

/-- Nothing happens any more, unless it comes from outside. -/
def Resting (family : Family κ ι) (c : Config κ ι) : Prop :=
  ∀ d, ¬ Goes family c d

theorem Goes.transition (h : Goes family c d) : Transition family c d := by
  cases h with
  | advance => exact .of_advance family c _
  | deliver reply => exact .of_step family c (.deliver _ reply)

/-- Whatever happens by itself leaves less to do. -/
theorem Goes.calmer (h : Goes family c d) (hc : Coherent c) (hrank : Ranked rank c) :
    Calmer rank d c := by
  cases h with
  | @advance i r hr h =>
    rcases Move.of_advance family hr with ⟨-, hmove⟩ | ⟨hstuck, -⟩
    · exact hmove.calmer hc hrank hr
    · rw [h] at hstuck
      cases hstuck
  | deliver reply hq hnone =>
    refine .of_pending (loads_of_readers ?_) (pending_deliver reply hq hnone)
    rw [(reply?_deliver reply hq hnone).1]

/-! ## Who is given up -/

/-- A move of one reader gives up nobody who reads from outside. -/
theorem Move.kept (h : Move family c j q d) (hl : Linked c) (hq : c.readers[j]? = some q)
    (hr : c.readers[i]? = some r) (ha : r.ancestors = []) (hlive : r.phase.isOver = false)
    (hs : d.readers[i]? = some s) (own : Option Nat) : s.phase ≠ .abandoned own := by
  intro hp
  have hmoved : ∀ phase : Phase κ ι, (∀ own, phase ≠ .abandoned own) →
      (c.setPhase j phase).readers[i]? ≠ some s := by
    intro phase hphase hi
    by_cases hij : j = i
    · subst hij
      rw [getElem?_setPhase_self hq] at hi
      obtain rfl := Option.some.inj hi
      exact hphase own hp
    · rw [getElem?_setPhase_ne hij, hr] at hi
      obtain rfl := Option.some.inj hi
      rw [hp] at hlive
      cases hlive
  cases h with
  | @shift phase new messages hshift =>
    have hold : i < (c.setPhase j phase).readers.length := by
      rw [length_setPhase]
      exact (List.getElem?_eq_some_iff.mp hr).1
    rw [shifted, List.getElem?_append_left hold] at hs
    refine hmoved phase ?_ hs
    rintro own rfl
    cases hshift
  | fill _ hempty =>
    rw [(enter_of_empty hempty).1] at hs
    refine hmoved _ ?_ hs
    intro own hgone
    cases hgone
  | @finish a result _ =>
    rw [(finish_eq c j q a result).1] at hs
    refine hmoved _ ?_ hs
    intro own hgone
    cases hgone
  | @fail a children next error hp' _ =>
    by_cases hij : j = i
    · subst hij
      rw [getElem?_setPhase_self (hl.kept hq (by rw [hp']; rfl))] at hs
      obtain rfl := Option.some.inj hs
      cases hp
    · rw [getElem?_setPhase_ne hij, getElem?_abandon, hr] at hs
      obtain rfl := Option.some.inj hs
      have hgone : isGone children i r = true := by
        by_contra hkept
        rw [dropped_of_not_isGone (Bool.eq_false_iff.mpr hkept)] at hp
        rw [hp] at hlive
        cases hlive
      have hchild : i ∈ children := by
        simpa [isGone, isUnder, ha, hlive] using hgone
      obtain ⟨t, ht, hancestors, -⟩ := hl.child hq (by rw [hp']; exact hchild)
      obtain rfl := Option.some.inj (hr.symm.trans ht)
      rw [ha] at hancestors
      cases hancestors

/-- In one step, a read that was issued from outside is given up by nobody but whoever issued it. -/
theorem eq_giveUp_of_abandoned (hl : Linked c) (event : Event κ) (hr : c.readers[i]? = some r)
    (ha : r.ancestors = []) (hlive : r.phase.isOver = false)
    (hs : (c.step family event).readers[i]? = some s) {own : Option Nat}
    (hp : s.phase = .abandoned own) : event = .giveUp i := by
  have hstays : ∀ d : Config κ ι, d.readers[i]? = c.readers[i]? → d.readers[i]? ≠ some s := by
    intro d hd hi
    rw [hd, hr] at hi
    obtain rfl := Option.some.inj hi
    rw [hp] at hlive
    cases hlive
  cases event with
  | start key =>
    refine absurd hs (hstays _ ?_)
    exact List.getElem?_append_left (List.getElem?_eq_some_iff.mp hr).1
  | deliver request reply =>
    refine absurd hs (hstays _ ?_)
    simp only [step, deliver]
    split <;> rfl
  | disown key => exact absurd hs (hstays _ rfl)
  | advance j =>
    simp only [step] at hs
    cases hq : c.readers[j]? with
    | none =>
      simp only [advance, hq] at hs
      exact absurd hs (hstays c rfl)
    | some q =>
      rcases Move.of_advance family hq with ⟨-, hmove⟩ | ⟨-, hstuck⟩
      · exact absurd hp (hmove.kept hl hq hr ha hlive hs own)
      · rw [hstuck] at hs
        exact absurd hs (hstays c rfl)
  | giveUp j =>
    simp only [step, giveUp] at hs
    split at hs
    · split at hs
      · rw [getElem?_abandon, hr] at hs
        obtain rfl := Option.some.inj hs
        by_contra hne
        have hkept : isGone [j] i r = false := by
          have hij : i ≠ j := fun hij => hne (by rw [hij])
          simp [isGone, isUnder, ha, hij]
        rw [dropped_of_not_isGone hkept] at hp
        rw [hp] at hlive
        cases hlive
      · exact absurd hs (hstays c rfl)
    · exact absurd hs (hstays c rfl)

/-- A read that was issued from outside is given up by nobody but whoever issued it. -/
theorem mem_of_abandoned {events : List (Event κ)} {own : Option Nat}
    (hr : (run family events).readers[i]? = some r) (ha : r.ancestors = [])
    (hp : r.phase = .abandoned own) : Event.giveUp i ∈ events := by
  induction events using List.reverseRecOn generalizing r own with
  | nil => cases hr
  | append_singleton events event ih =>
    rw [run_concat] at hr
    have hl := (Coherent.run family events).linked
    have ht := Transition.of_step family (run family events) event
    rcases ht.before hr with ⟨q, hq, hsame, hphase | hturn⟩ | ⟨-, hborn⟩
    · exact List.mem_append_left _ (ih hq (hsame.ancestors ▸ ha) (hphase ▸ hp))
    · have hlast := eq_giveUp_of_abandoned hl event hq (hsame.ancestors ▸ ha) hturn.isOver hr hp
      exact List.mem_append_right _ (List.mem_singleton.mpr hlast.symm)
    · rw [hborn.entering] at hp
      cases hp

/-! ## Rest -/

/-- Whoever waits for a reply has sent the message. -/
structure Posted (c : Config κ ι) : Prop where
  sent : ∀ {i a q : Nat} {r : Reader κ ι} {next : Reply → Population κ ι},
    c.readers[i]? = some r → r.phase = .awaitingReply a q next → q < c.sent.length

/-- A step sends a message before anybody waits for its reply. -/
theorem Posted.transition (h : Posted c) (ht : Transition family c d) : Posted d where
  sent {i a q s next} hs hp := by
    have hle : c.sent.length ≤ d.sent.length := ht.sent_prefix.length_le
    rcases ht.before hs with ⟨r, hr, -, hphase | hturn⟩ | ⟨-, hborn⟩
    · exact Nat.lt_of_lt_of_le (h.sent hr (hphase ▸ hp)) hle
    · rw [hp] at hturn
      cases hturn with
      | shift hshift _ hsent =>
        cases hshift with
        | send => simp [hsent]
    · rw [hborn.entering] at hp
      cases hp

theorem Posted.run (family : Family κ ι) (events : List (Event κ)) : Posted (run family events) :=
  run_induction ⟨fun h => by cases h⟩ (fun _ _ h ht => h.transition ht) events

/-- Nothing happens by itself once nobody can move and every message has its reply. -/
theorem resting_iff : Resting family c ↔
    (∀ r ∈ c.readers, c.canMove r = false) ∧ ∀ q < c.sent.length, (c.reply? q).isSome = true := by
  constructor
  · intro h
    refine ⟨fun r hr => ?_, fun q hq => ?_⟩
    · obtain ⟨i, hi⟩ := List.mem_iff_getElem?.mp hr
      exact Bool.eq_false_iff.mpr fun hmove => h _ (.advance hi hmove)
    · rw [Option.isSome_iff_ne_none]
      exact fun hnone => h _ (.deliver (.ok []) hq hnone)
  · rintro ⟨hmoves, hreplies⟩ d hgoes
    cases hgoes with
    | advance hr hmove =>
      rw [hmoves _ (List.mem_of_getElem? hr)] at hmove
      cases hmove
    | deliver reply hq hnone =>
      have hsome := hreplies _ hq
      rw [hnone] at hsome
      cases hsome

instance : Decidable (Resting family c) :=
  decidable_of_iff _ resting_iff.symm

/-- At rest nobody waits for a reply. -/
theorem Resting.not_awaitingReply (h : Resting family c) (hp : Posted c)
    (hr : c.readers[i]? = some r) (a q : Nat) (next : Reply → Population κ ι) :
    r.phase ≠ .awaitingReply a q next := by
  intro hwaits
  have hstuck := (resting_iff.mp h).1 r (List.mem_of_getElem? hr)
  have harrived := (resting_iff.mp h).2 q (hp.sent hr hwaits)
  simp [canMove, hwaits, harrived] at hstuck

section Runs

variable {events : List (Event κ)}

/-- At rest a read that is not over waits for another one that is not over either. -/
theorem Resting.exists_waitsFor (h : Resting family (run family events))
    (hr : (run family events).readers[i]? = some r) (hlive : r.phase.isOver = false) :
    ∃ j s, WaitsFor (run family events) i j ∧ (run family events).readers[j]? = some s ∧
      s.phase.isOver = false := by
  have hstuck := (resting_iff.mp h).1 r (List.mem_of_getElem? hr)
  rcases (Coherent.run family events).exists_waitsFor (.run family events) hr hlive hstuck with
    ⟨a, q, next, hwaits⟩ | hother
  · exact absurd hwaits (h.not_awaitingReply (.run family events) hr a q next)
  · exact hother

/-- At rest a read that is not over is held up by an attempt on its collection, and this attempt by
a read that it has issued: nobody waits for an attempt that has ended. -/
theorem Resting.held (h : Resting family (run family events))
    (hr : (run family events).readers[i]? = some r) (hlive : r.phase.isOver = false) :
    ∃ j a k, (run family events).Populates j r.key a ∧ WaitsFor (run family events) j k := by
  obtain ⟨j, s, hwait, hs, hslive⟩ := h.exists_waitsFor hr hlive
  cases hwait with
  | @attempt _ key a hr' hwaiting hj =>
    obtain rfl := Option.some.inj (hr.symm.trans hr')
    obtain rfl := (Coherent.run family events).key_of_waiting hr hwaiting hj
    obtain ⟨k, -, hwait, -, -⟩ := h.exists_waitsFor hs hslive
    exact ⟨j, a, k, hj, hwait⟩
  | answer hr' hj hnone =>
    obtain rfl := Option.some.inj (hr.symm.trans hr')
    obtain ⟨a, hactive⟩ := Phase.active?_of_awaited hj
    exact ⟨i, a, j, ⟨r, hr, rfl, hactive⟩, .answer hr hj hnone⟩

/-- At rest every read is over. -/
theorem Resting.isOver (h : Resting family (run family events)) (hfamily : family.RankedBy rank)
    (hr : (run family events).readers[i]? = some r) : r.phase.isOver = true := by
  by_contra hlive
  have hrank := Ranked.run hfamily events
  obtain ⟨j, s, -, hs, hmoves⟩ := hrank.exists_mover (.run family events) (.run family events) hr
    (Bool.eq_false_iff.mpr hlive)
  rcases hmoves with hmove | ⟨a, q, next, hwaits⟩
  · rw [(resting_iff.mp h).1 s (List.mem_of_getElem? hs)] at hmove
    cases hmove
  · exact h.not_awaitingReply (.run family events) hs a q next hwaits

/-- At rest every read from outside has answered, unless it was given up. -/
theorem Resting.answered (h : Resting family (run family events))
    (hfamily : family.RankedBy rank) (hr : (run family events).readers[i]? = some r)
    (ha : r.ancestors = []) (hkept : Event.giveUp i ∉ events) :
    ∃ own result, r.phase = .finished own result := by
  have hover := h.isOver hfamily hr
  cases hp : r.phase with
  | finished own result => exact ⟨own, result, rfl⟩
  | abandoned own => exact absurd (mem_of_abandoned hr ha hp) hkept
  | _ => rw [hp] at hover; cases hover

end Runs

/-- What happens by itself comes to an end. -/
theorem not_goes_forever (hfamily : family.RankedBy rank) {configs : Nat → Config κ ι}
    {events : List (Event κ)} (hfirst : configs 0 = run family events)
    (hgoes : ∀ n, Goes family (configs n) (configs (n + 1))) : False := by
  have hkept : ∀ n, Coherent (configs n) ∧ Ranked rank (configs n) := by
    intro n
    induction n with
    | zero =>
      rw [hfirst]
      exact ⟨.run family events, .run hfamily events⟩
    | succ n ih =>
      have ht := (hgoes n).transition
      exact ⟨ih.1.transition ht, ih.2.transition hfamily ih.1.linked ht⟩
  -- behind the least of all configurations there would be one that is less
  obtain ⟨_, ⟨n, rfl⟩, hleast⟩ := (wellFounded_calmer rank).has_min
    (Set.range configs) ⟨_, 0, rfl⟩
  exact hleast _ ⟨n + 1, rfl⟩ ((hgoes n).calmer (hkept n).1 (hkept n).2)

end Config

end CubeClient.Deferred
