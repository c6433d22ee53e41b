import Mathlib.Data.List.Forall2

/-!
# Computations that can fail

Whoever reads the parts of something one after the other succeeds with all of them
(`forall₂_of_mapM`) or fails with the fault of one. So a kind of fault is proved of the whole by
proving it of the parts (`FailsAs`). A loop that passes something on fails with its first failure
(`foldlM_eq_error_iff`).
-/

namespace CubeClient

variable {ε α β : Type}

/-- Two computations one behind the other succeed only if both do. -/
theorem bind_eq_ok {x : Except ε α} {f : α → Except ε β} {b : β} (h : x >>= f = .ok b) :
    ∃ a, x = .ok a ∧ f a = .ok b := by
  cases x with
  | error e => cases h
  | ok a => exact ⟨a, rfl, h⟩

theorem map_eq_ok {x : Except ε α} {f : α → β} {b : β} (h : x.map f = .ok b) :
    ∃ a, x = .ok a ∧ f a = b := by
  cases x with
  | error e => cases h
  | ok a => exact ⟨a, rfl, Except.ok.inj h⟩

/-- A mapped computation succeeds with what its own success is mapped to. -/
theorem map_eq_ok_iff {x : Except ε α} {f : α → β} {b : β} :
    x.map f = .ok b ↔ ∃ a, x = .ok a ∧ f a = b := by
  refine ⟨map_eq_ok, ?_⟩
  rintro ⟨a, rfl, rfl⟩
  rfl

/-- Mapping its success does not change how a computation fails. -/
theorem map_eq_error_iff {x : Except ε α} {f : α → β} {e : ε} :
    x.map f = .error e ↔ x = .error e := by
  cases x with
  | error e' => simp [Except.map]
  | ok a => simp [Except.map]

theorem mapError_eq_ok {ε' : Type} {x : Except ε α} {f : ε → ε'} {a : α}
    (h : x.mapError f = .ok a) : x = .ok a := by
  cases x with
  | error e => cases h
  | ok b => exact congrArg _ (Except.ok.inj h)

/-! ## Every item of a list -/

theorem exists_of_forall₂ {R : α → β → Prop} {as : List α} {bs : List β} {a : α}
    (h : List.Forall₂ R as bs) (ha : a ∈ as) : ∃ b ∈ bs, R a b := by
  induction h with
  | nil => cases ha
  | cons hr _ ih =>
    rcases List.mem_cons.mp ha with rfl | ha
    · exact ⟨_, List.mem_cons_self, hr⟩
    · obtain ⟨b, hb, hab⟩ := ih ha
      exact ⟨b, List.mem_cons_of_mem _ hb, hab⟩

section

variable {f : α → Option β} {as : List α} {bs : List β} {b : β}

/-- What a list is mapped to goes with it item by item. -/
theorem forall₂_of_mapM (h : as.mapM f = some bs) :
    List.Forall₂ (fun a b => f a = some b) as bs := by
  induction as generalizing bs with
  | nil =>
    cases h
    exact .nil
  | cons a as ih =>
    rw [List.mapM_cons] at h
    obtain ⟨first, hfirst, h⟩ := Option.bind_eq_some_iff.mp h
    obtain ⟨rest, hrest, h⟩ := Option.bind_eq_some_iff.mp h
    cases h
    exact .cons hfirst (ih hrest)

theorem mapM_of_forall₂ (h : List.Forall₂ (fun a b => f a = some b) as bs) :
    as.mapM f = some bs := by
  induction h with
  | nil => rfl
  | cons hfirst _ ih =>
    rw [List.mapM_cons, hfirst, ih]
    rfl

theorem exists_of_mem_mapM (h : as.mapM f = some bs) (hb : b ∈ bs) : ∃ a ∈ as, f a = some b :=
  exists_of_forall₂ (forall₂_of_mapM h).flip hb

/-- A list is not mapped only if one of its items is not. -/
theorem exists_none_of_mapM (h : as.mapM f = none) : ∃ a ∈ as, f a = none := by
  induction as with
  | nil => cases h
  | cons a as ih =>
    cases hfirst : f a with
    | none => exact ⟨a, List.mem_cons_self, hfirst⟩
    | some b =>
      have hrest : as.mapM f = none := by
        rw [List.mapM_cons, hfirst] at h
        cases hmap : as.mapM f with
        | none => rfl
        | some bs => rw [hmap] at h; cases h
      obtain ⟨a', ha', hnone⟩ := ih hrest
      exact ⟨a', List.mem_cons_of_mem a ha', hnone⟩

end

/-! ## Loops -/

/-- A loop fails with its first failure. -/
theorem foldlM_eq_error_iff {f : β → α → Except ε β} {init : β} {items : List α} {e : ε} :
    items.foldlM f init = .error e ↔ ∃ before item after b, items = before ++ item :: after ∧
      before.foldlM f init = .ok b ∧ f b item = .error e := by
  constructor
  · induction items generalizing init with
    | nil => intro h; cases h
    | cons item items ih =>
      rw [List.foldlM_cons]
      intro h
      cases hitem : f init item with
      | error e' =>
        rw [hitem] at h
        cases h
        exact ⟨[], item, items, init, rfl, rfl, hitem⟩
      | ok b =>
        rw [hitem] at h
        obtain ⟨before, last, after, b', rfl, hbefore, hlast⟩ := ih h
        refine ⟨item :: before, last, after, b', rfl, ?_, hlast⟩
        rw [List.foldlM_cons, hitem]
        exact hbefore
  · rintro ⟨before, item, after, b, rfl, hbefore, hitem⟩
    rw [List.foldlM_append, hbefore]
    show (item :: after).foldlM f b = _
    rw [List.foldlM_cons, hitem]
    rfl

/-! ## Kinds of faults -/

/-- Whatever goes wrong is of a kind. -/
def FailsAs (kind : ε → Prop) (x : Except ε α) : Prop :=
  ∀ e, x = .error e → kind e

namespace FailsAs

variable {kind : ε → Prop}

theorem ok (a : α) : FailsAs kind (.ok a : Except ε α) := by
  intro e h
  cases h

theorem error {e : ε} (h : kind e) : FailsAs kind (.error e : Except ε α) := by
  intro e' heq
  cases heq
  exact h

theorem bind {x : Except ε α} {f : α → Except ε β} (hx : FailsAs kind x)
    (hf : ∀ a, FailsAs kind (f a)) : FailsAs kind (x >>= f) := by
  intro e h
  cases x with
  | error e' =>
    cases h
    exact hx e rfl
  | ok a => exact hf a e h

theorem map {x : Except ε α} (hx : FailsAs kind x) (f : α → β) : FailsAs kind (x.map f) := by
  intro e h
  cases x with
  | error e' =>
    cases h
    exact hx e rfl
  | ok a => cases h

theorem mapM {f : α → Except ε β} (hf : ∀ a, FailsAs kind (f a)) (items : List α) :
    FailsAs kind (items.mapM f) := by
  induction items with
  | nil => exact ok []
  | cons a items ih =>
    rw [List.mapM_cons]
    exact bind (hf a) fun b => bind ih fun bs => ok (b :: bs)

end FailsAs

end CubeClient
