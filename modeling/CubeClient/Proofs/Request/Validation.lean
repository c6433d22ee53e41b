import CubeClient.Request.Catalogue

/-!
# The catalogue's verdict on restrictions

The catalogue accepts restrictions if all their keys are allowed and no required key is missing
(`Accepts`). Otherwise it reports one of possibly many violations, and which one is said without
looking at how it is found: it is the first key outside of what is allowed, in the caller's order,
or else the first required key outside of the caller's, in the catalogue's (`Refuses`). So only
which keys occur decides on acceptance.
-/

namespace CubeClient

/-! ## The first key outside of a list -/

/-- A key is the first of a list that another list does not have. -/
def FirstOutside (keys others : List String) (key : String) : Prop :=
  ∃ before after, keys = before ++ key :: after ∧ key ∉ others ∧ ∀ k ∈ before, k ∈ others

variable {keys others : List String} {key : String}

theorem find?_outside_eq_some_iff :
    keys.find? (fun k => !others.contains k) = some key ↔ FirstOutside keys others key := by
  rw [List.find?_eq_some_iff_append]
  simp only [Bool.not_eq_true', List.contains_iff_mem, ← Bool.not_eq_true]
  constructor
  · rintro ⟨houtside, before, after, hsplit, hbefore⟩
    exact ⟨before, after, hsplit, houtside, fun k hk => by simpa using hbefore k hk⟩
  · rintro ⟨before, after, hsplit, houtside, hbefore⟩
    exact ⟨houtside, before, after, hsplit, fun k hk => by simpa using hbefore k hk⟩

theorem find?_outside_eq_none_iff :
    keys.find? (fun k => !others.contains k) = none ↔ ∀ k ∈ keys, k ∈ others := by
  simp [List.find?_eq_none]

/-- A list lies in another, or it has a first key outside of it. -/
theorem forall_mem_or_firstOutside (keys others : List String) :
    (∀ k ∈ keys, k ∈ others) ∨ ∃ key, FirstOutside keys others key := by
  cases h : keys.find? (fun k => !others.contains k) with
  | none => exact .inl (find?_outside_eq_none_iff.mp h)
  | some key => exact .inr ⟨key, find?_outside_eq_some_iff.mp h⟩

namespace RequestType

variable {request : RequestType} {restrictions other : Restrictions} {error : ClientError}

/-! ## Acceptance and refusal -/

/-- All keys are allowed, and all required keys are there. -/
structure Accepts (request : RequestType) (restrictions : Restrictions) : Prop where
  allowed : ∀ key ∈ restrictions.keys, key ∈ request.shape.allowed
  required : ∀ key ∈ request.shape.required, key ∈ restrictions.keys

/-- What is wrong with restrictions. A missing key is reported only if all keys are allowed. -/
inductive Refuses (request : RequestType) (restrictions : Restrictions) : ClientError → Prop
  | unsupported {key : String} (h : FirstOutside restrictions.keys request.shape.allowed key) :
    Refuses request restrictions (.unsupportedRestriction request.name key)
  | missing {key : String} (hallowed : ∀ k ∈ restrictions.keys, k ∈ request.shape.allowed)
      (h : FirstOutside request.shape.required restrictions.keys key) :
    Refuses request restrictions (.missingRestriction request.name key)

/-- Restrictions are accepted, or there is a reason to refuse them. -/
theorem accepts_or_refuses (request : RequestType) (restrictions : Restrictions) :
    Accepts request restrictions ∨ ∃ error, Refuses request restrictions error := by
  obtain hallowed | ⟨key, hkey⟩ :=
    forall_mem_or_firstOutside restrictions.keys request.shape.allowed
  · obtain hrequired | ⟨key, hkey⟩ :=
      forall_mem_or_firstOutside request.shape.required restrictions.keys
    · exact .inl ⟨hallowed, hrequired⟩
    · exact .inr ⟨_, .missing hallowed hkey⟩
  · exact .inr ⟨_, .unsupported hkey⟩

/-- The first key that is not allowed is reported. -/
theorem validate_of_unsupported (h : FirstOutside restrictions.keys request.shape.allowed key) :
    request.validate restrictions = .error (.unsupportedRestriction request.name key) := by
  obtain ⟨pair, hpair, rfl⟩ :=
    Option.map_eq_some_iff.mp (List.find?_map.symm.trans (find?_outside_eq_some_iff.mpr h))
  unfold validate
  split
  · rename_i hfound
    cases hpair.symm.trans hfound
    rfl
  · rename_i hnone
    cases hpair.symm.trans hnone

/-- If all keys are allowed, the first required key that is missing decides. -/
theorem validate_of_allowed (hallowed : ∀ k ∈ restrictions.keys, k ∈ request.shape.allowed) :
    request.validate restrictions =
      ((request.shape.required.find? fun k => !restrictions.keys.contains k).map
        (.error <| .missingRestriction request.name ·)).getD (.ok ()) := by
  have hmissing : (fun key => (restrictions.get? key).isNone) =
      fun key => !restrictions.keys.contains key := by
    funext key
    rw [Bool.eq_iff_iff, Option.isNone_iff_eq_none, Pairs.get?_eq_none_iff]
    simp
  have hnone := Option.map_eq_none_iff.mp
    (List.find?_map.symm.trans (find?_outside_eq_none_iff.mpr hallowed))
  unfold validate
  split
  · rename_i hfound
    cases hnone.symm.trans hfound
  · rw [hmissing]
    split
    · rename_i hkey
      rw [hkey]
      rfl
    · rename_i hrequired
      rw [hrequired]
      rfl

theorem validate_of_accepts (h : Accepts request restrictions) :
    request.validate restrictions = .ok () := by
  rw [validate_of_allowed h.allowed, find?_outside_eq_none_iff.mpr h.required]
  rfl

theorem validate_of_refuses (h : Refuses request restrictions error) :
    request.validate restrictions = .error error := by
  cases h with
  | unsupported hkey => exact validate_of_unsupported hkey
  | missing hallowed hkey =>
    rw [validate_of_allowed hallowed, find?_outside_eq_some_iff.mpr hkey]
    rfl

/-- Only accepted restrictions pass. -/
theorem validate_eq_ok_iff :
    request.validate restrictions = .ok () ↔ Accepts request restrictions := by
  refine ⟨fun h => ?_, validate_of_accepts⟩
  obtain haccepts | ⟨error, hrefuses⟩ := accepts_or_refuses request restrictions
  · exact haccepts
  · rw [validate_of_refuses hrefuses] at h
    cases h

/-- Restrictions fail with exactly the reasons to refuse them. -/
theorem validate_eq_error_iff :
    request.validate restrictions = .error error ↔ Refuses request restrictions error := by
  refine ⟨fun h => ?_, validate_of_refuses⟩
  obtain haccepts | ⟨other, hrefuses⟩ := accepts_or_refuses request restrictions
  · rw [validate_of_accepts haccepts] at h
    cases h
  · rw [validate_of_refuses hrefuses] at h
    cases h
    exact hrefuses

/-- A key that is not allowed is reported before one that is missing, and the first one of them. -/
example : levels.validate ⟨[("CUBE_NAME", "Sales"), ("B", ""), ("A", "")]⟩ =
    .error (.unsupportedRestriction "MDSCHEMA_LEVELS" "B") :=
  rfl

/-- Acceptance depends on which keys occur, not on their order, their number or their values. -/
theorem Accepts.congr (h : ∀ key, key ∈ other.keys ↔ key ∈ restrictions.keys) :
    Accepts request other ↔ Accepts request restrictions := by
  constructor
  · intro haccepts
    exact ⟨fun key hkey => haccepts.allowed key ((h key).mpr hkey),
      fun key hkey => (h key).mp (haccepts.required key hkey)⟩
  · intro haccepts
    exact ⟨fun key hkey => haccepts.allowed key ((h key).mp hkey),
      fun key hkey => (h key).mpr (haccepts.required key hkey)⟩

end RequestType

end CubeClient
