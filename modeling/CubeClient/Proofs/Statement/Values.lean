import CubeClient.Proofs.Lists.Places
import CubeClient.Statement
import Mathlib.Data.List.Induction

/-!
# The values of a prepared statement

A statement is compared with the calls that have been made on it, of which any may have failed. Its
parameters stay those that were declared, each with its slot, and a slot holds what the last call on
it has put there (`StatementCall.IsLastValue`). All questions and calls find a parameter by `index`,
so they refuse the same ordinals in the same way (`Refuses`) and reach the parameter of any other
(`Answers`). What is executed does not depend on the values.
-/

namespace CubeClient

variable {ν : Type}

/-! ## Calls -/

/-- What is done to a statement. -/
inductive StatementCall (ν : Type) where
  | setValue (ordinal : Nat) (value : ν)
  | unset (ordinal : Nat)
  | setStream (ordinal : Nat)
  | addBatch
  | executeUpdate

namespace StatementCall

/-- The ordinal that a call is about. -/
def ordinal? : StatementCall ν → Option Nat
  | .setValue ordinal _ => some ordinal
  | .unset ordinal => some ordinal
  | .setStream ordinal => some ordinal
  | .addBatch => none
  | .executeUpdate => none

/-- The slot that a call is to change, and what it is to hold. -/
def put? : StatementCall ν → Option (Nat × Option ν)
  | .setValue ordinal value => some (ordinal, some value)
  | .unset ordinal => some (ordinal, none)
  | _ => none

theorem ordinal?_of_put? {call : StatementCall ν} {ordinal : Nat} {value : Option ν}
    (h : call.put? = some (ordinal, value)) : call.ordinal? = some ordinal := by
  cases call <;> cases h <;> rfl

theorem eq_setValue_of_put? {call : StatementCall ν} {ordinal : Nat} {value : ν}
    (h : call.put? = some (ordinal, some value)) : call = .setValue ordinal value := by
  cases call <;> cases h
  rfl

/-- The last value that calls put into a slot, unless it has been taken away since. -/
def IsLastValue (calls : List (StatementCall ν)) (ordinal : Nat) (value : ν) : Prop :=
  ∃ before after, calls = before ++ .setValue ordinal value :: after ∧
    ∀ call ∈ after, ∀ slot, call.put? ≠ some (ordinal, slot)

theorem not_isLastValue_nil {ordinal : Nat} {value : ν} : ¬ IsLastValue [] ordinal value := by
  rintro ⟨before, after, h, -⟩
  exact absurd h (by simp)

theorem isLastValue_concat {calls : List (StatementCall ν)} {call : StatementCall ν}
    {ordinal : Nat} {value : ν} : IsLastValue (calls ++ [call]) ordinal value ↔
      call = .setValue ordinal value ∨
        ((∀ slot, call.put? ≠ some (ordinal, slot)) ∧ IsLastValue calls ordinal value) :=
  exists_last_concat

end StatementCall

namespace PreparedStatement

variable {s : PreparedStatement ν} {call : StatementCall ν} {ordinal other : Nat}
  {value : Option ν}

/-! ## Ordinals -/

/-- An ordinal has a parameter. -/
def InRange (s : PreparedStatement ν) (ordinal : Nat) : Prop :=
  0 < ordinal ∧ ordinal ≤ s.parameters.length

theorem index_of_lt {position : Nat} (h : position < s.parameters.length) :
    s.index (position + 1) = .ok ⟨position, h⟩ := by
  rw [index, dif_neg (by omega)]
  rfl

/-- An ordinal in range is that of a parameter. -/
theorem index_of_inRange (h : s.InRange ordinal) :
    ∃ position : Fin s.parameters.length, ordinal = position + 1 ∧
      s.index ordinal = .ok position := by
  obtain ⟨hlow, hhigh⟩ := h
  obtain ⟨position, rfl⟩ := Nat.exists_eq_add_of_lt hlow
  rw [Nat.zero_add] at hhigh ⊢
  exact ⟨⟨position, hhigh⟩, rfl, index_of_lt hhigh⟩

/-- An ordinal out of range is refused with the number of parameters. -/
theorem index_of_not_inRange (h : ¬ s.InRange ordinal) :
    s.index ordinal = .error (.parameterOutOfRange ordinal s.parameters.length) := by
  rw [index, dif_pos (by unfold InRange at h; omega)]
  rfl

/-! ## Questions -/

/-- Every question about an ordinal is answered as its parameter has been declared. -/
structure Answers (s : PreparedStatement ν) (ordinal : Nat) (parameter : Parameter) : Prop where
  parameterName : s.parameterName ordinal = .ok parameter.name
  olapType : s.olapType ordinal = .ok parameter.type
  typeName : s.typeName ordinal = .ok parameter.type.name
  sqlType : s.sqlType ordinal = parameter.type.sqlType
  className : s.className ordinal = parameter.type.className
  isSigned : s.isSigned ordinal = parameter.type.signed
  precision : s.precision ordinal = parameter.type.precision
  scale : s.scale ordinal = .ok 0
  value? : ∃ slot, s.value? ordinal = .ok slot ∧ s.isSet ordinal = .ok slot.isSome

/-- Every question about an ordinal and every call on it end with one error and change nothing. -/
structure Refuses (s : PreparedStatement ν) (ordinal : Nat) (error : ClientError) : Prop where
  parameterName : s.parameterName ordinal = .error error
  olapType : s.olapType ordinal = .error error
  typeName : s.typeName ordinal = .error error
  sqlType : s.sqlType ordinal = .error error
  className : s.className ordinal = .error error
  isSigned : s.isSigned ordinal = .error error
  precision : s.precision ordinal = .error error
  scale : s.scale ordinal = .error error
  value? : s.value? ordinal = .error error
  isSet : s.isSet ordinal = .error error
  setValue : ∀ value, s.setValue ordinal value = (.error error, s)
  unset : s.unset ordinal = (.error error, s)
  setStream : s.setStream ordinal = (.error error, s)

theorem answers_of_index {position : Fin s.parameters.length} (h : s.index ordinal = .ok position) :
    s.Answers ordinal (s.parameters.get position) := by
  have hparameter : s.parameter ordinal = .ok (s.parameters.get position) := by
    rw [parameter, h]
    rfl
  constructor
  case value? =>
    refine ⟨s.values.get position, ?_, ?_⟩
    · rw [PreparedStatement.value?, h]
      rfl
    · rw [PreparedStatement.isSet, h]
      rfl
  all_goals
    simp only [PreparedStatement.parameterName, PreparedStatement.olapType,
      PreparedStatement.typeName, PreparedStatement.sqlType, PreparedStatement.className,
      PreparedStatement.isSigned, PreparedStatement.precision, PreparedStatement.scale,
      typeProperty, hparameter]
    rfl

/-- An ordinal without a place is refused by every accessor. -/
theorem refuses_of_index {error : ClientError} (h : s.index ordinal = .error error) :
    s.Refuses ordinal error := by
  constructor
  case setValue => exact fun value => by rw [PreparedStatement.setValue, put, h]
  case unset => rw [PreparedStatement.unset, put, h]
  case setStream => rw [PreparedStatement.setStream, h]
  all_goals
    simp only [PreparedStatement.parameterName, PreparedStatement.olapType,
      PreparedStatement.typeName, PreparedStatement.sqlType, PreparedStatement.className,
      PreparedStatement.isSigned, PreparedStatement.precision, PreparedStatement.scale,
      PreparedStatement.value?, PreparedStatement.isSet, parameter, typeProperty, h]
    rfl

/-! ## Putting -/

theorem put_of_not_inRange (h : ¬ s.InRange ordinal) : s.put ordinal value =
    (.error (.parameterOutOfRange ordinal s.parameters.length), s) := by
  rw [put, index_of_not_inRange h]

/-- A value can be put wherever there is a parameter. -/
theorem put_ok_iff : (s.put ordinal value).1 = .ok () ↔ s.InRange ordinal := by
  by_cases h : s.InRange ordinal
  · obtain ⟨position, -, hposition⟩ := index_of_inRange h
    rw [put, hposition]
    exact iff_of_true rfl h
  · rw [put_of_not_inRange h]
    exact iff_of_false (fun herror => by cases herror) h

/-- What every slot holds after one has been changed. -/
theorem value?_put (h : s.InRange ordinal) :
    (s.put ordinal value).2.value? other =
      if other = ordinal then .ok value else s.value? other := by
  obtain ⟨position, rfl, hposition⟩ := index_of_inRange h
  rw [put, hposition]
  show (s.index other).map (s.values.set position value).get = _
  rw [value?]
  by_cases hother : s.InRange other
  · obtain ⟨position', rfl, hposition'⟩ := index_of_inRange hother
    rw [hposition']
    show Except.ok ((s.values.set position value)[position'.val]) = _
    rw [Vector.getElem_set]
    by_cases heq : position = position'
    · rw [heq, if_pos rfl, if_pos rfl]
    · have hne : position.val ≠ position'.val := fun h => heq (Fin.ext h)
      rw [if_neg hne, if_neg (by omega)]
      rfl
  · have hne : other ≠ position + 1 := fun heq => hother (heq.symm ▸ h)
    rw [index_of_not_inRange hother, if_neg hne]
    rfl

/-! ## One call -/

/-- How a call ends, and the statement after it. -/
def perform (s : PreparedStatement ν) :
    StatementCall ν → Except ClientError Unit × PreparedStatement ν
  | .setValue ordinal value => s.setValue ordinal value
  | .unset ordinal => s.unset ordinal
  | .setStream ordinal => s.setStream ordinal
  | .addBatch => s.addBatch
  | .executeUpdate => (s.executeUpdate.map fun _ => (), s)

theorem perform_of_put? (h : call.put? = some (ordinal, value)) :
    s.perform call = s.put ordinal value := by
  cases call <;> cases h <;> rfl

/-- A call that is to change no slot fails, and changes nothing. -/
theorem perform_of_put?_none (h : call.put? = none) :
    ∃ error, s.perform call = (.error error, s) := by
  cases call with
  | setValue ordinal value => cases h
  | unset ordinal => cases h
  | setStream ordinal =>
    rw [perform, setStream]
    cases s.index ordinal with
    | error error => exact ⟨error, rfl⟩
    | ok position => exact ⟨_, rfl⟩
  | addBatch => exact ⟨_, rfl⟩
  | executeUpdate => exact ⟨_, rfl⟩

/-- A call succeeds exactly if it is to change a slot that is there. -/
theorem perform_ok_iff : (s.perform call).1 = .ok () ↔
    ∃ ordinal value, call.put? = some (ordinal, value) ∧ s.InRange ordinal := by
  cases hput : call.put? with
  | none =>
    obtain ⟨error, herror⟩ := perform_of_put?_none (s := s) hput
    rw [herror]
    constructor
    · intro h
      cases h
    · rintro ⟨ordinal, value, h, -⟩
      cases h
  | some slot =>
    obtain ⟨ordinal, value⟩ := slot
    rw [perform_of_put? hput, put_ok_iff]
    constructor
    · exact fun h => ⟨ordinal, value, rfl, h⟩
    · rintro ⟨_, _, h, hrange⟩
      cases h
      exact hrange

/-- A call that fails changes nothing. -/
theorem perform_of_error {error : ClientError} (h : (s.perform call).1 = .error error) :
    (s.perform call).2 = s := by
  cases hput : call.put? with
  | none =>
    obtain ⟨other, hother⟩ := perform_of_put?_none (s := s) hput
    rw [hother]
  | some slot =>
    rw [perform_of_put? hput] at h ⊢
    have hrange : ¬ s.InRange slot.1 := fun hrange => by
      cases h.symm.trans (put_ok_iff.mpr hrange)
    rw [put_of_not_inRange hrange]

/-- A call on a slot that is there makes it hold what the call says. -/
theorem value?_perform_of_put? (hrange : s.InRange ordinal)
    (h : call.put? = some (ordinal, value)) :
    (s.perform call).2.value? ordinal = .ok value := by
  rw [perform_of_put? h, value?_put hrange, if_pos rfl]

/-- All other slots are left. -/
theorem value?_perform_of_ne (h : ∀ value, call.put? ≠ some (ordinal, value)) :
    (s.perform call).2.value? ordinal = s.value? ordinal := by
  cases hput : call.put? with
  | none =>
    obtain ⟨error, herror⟩ := perform_of_put?_none (s := s) hput
    rw [herror]
  | some slot =>
    rw [perform_of_put? hput]
    by_cases hrange : s.InRange slot.1
    · refine (value?_put hrange).trans (if_neg ?_)
      rintro rfl
      exact h slot.2 hput
    · rw [put_of_not_inRange hrange]

/-! ## What has been declared -/

/-- A statement is still the one that has been declared, whatever its values are. -/
structure Declared (client : Client) (mdx : String) (parameters : List Parameter)
    (s : PreparedStatement ν) : Prop where
  client : s.client = client
  mdx : s.mdx = mdx
  parameters : s.parameters = parameters

namespace Declared

variable {client : Client} {mdx : String} {parameters : List Parameter}

theorem put (h : Declared client mdx parameters s) (ordinal : Nat) (value : Option ν) :
    Declared client mdx parameters (s.put ordinal value).2 := by
  rw [PreparedStatement.put]
  cases s.index ordinal with
  | error error => exact h
  | ok position => exact ⟨h.client, h.mdx, h.parameters⟩

/-- No call changes a declaration. -/
theorem perform (h : Declared client mdx parameters s) (call : StatementCall ν) :
    Declared client mdx parameters (s.perform call).2 := by
  cases hput : call.put? with
  | none =>
    obtain ⟨error, herror⟩ := perform_of_put?_none (s := s) hput
    rw [herror]
    exact h
  | some slot =>
    rw [perform_of_put? hput]
    exact h.put slot.1 slot.2

theorem inRange_iff (h : Declared client mdx parameters s) :
    s.InRange ordinal ↔ 0 < ordinal ∧ ordinal ≤ parameters.length := by
  rw [InRange, h.parameters]

/-- Every parameter answers as it was declared. -/
theorem answers (h : Declared client mdx parameters s) {position : Nat}
    (hposition : position < parameters.length) :
    s.Answers (position + 1) parameters[position] := by
  obtain ⟨rfl, rfl, rfl⟩ := h
  exact answers_of_index (index_of_lt hposition)

theorem refuses (h : Declared client mdx parameters s)
    (hordinal : ordinal = 0 ∨ parameters.length < ordinal) :
    s.Refuses ordinal (.parameterOutOfRange ordinal parameters.length) := by
  have hrange : ¬ s.InRange ordinal := by
    rw [h.inRange_iff]
    omega
  have hrefuses := refuses_of_index (index_of_not_inRange hrange)
  rw [h.parameters] at hrefuses
  exact hrefuses

end Declared

/-! ## Many calls -/

/-- The statement after calls. -/
def run (s : PreparedStatement ν) (calls : List (StatementCall ν)) : PreparedStatement ν :=
  calls.foldl (fun s call => (s.perform call).2) s

theorem run_concat (s : PreparedStatement ν) (calls : List (StatementCall ν))
    (call : StatementCall ν) : s.run (calls ++ [call]) = ((s.run calls).perform call).2 := by
  simp only [run, List.foldl_append, List.foldl_cons, List.foldl_nil]

theorem Declared.run {client : Client} {mdx : String} {parameters : List Parameter}
    (h : Declared client mdx parameters s) (calls : List (StatementCall ν)) :
    Declared client mdx parameters (s.run calls) := by
  induction calls using List.reverseRecOn with
  | nil => exact h
  | append_singleton calls call ih =>
    rw [run_concat]
    exact ih.perform call

/-- No call changes which ordinals are in range. -/
theorem inRange_run {calls : List (StatementCall ν)} :
    (s.run calls).InRange ordinal ↔ s.InRange ordinal :=
  (Declared.run ⟨rfl, rfl, rfl⟩ calls).inRange_iff

/-- A slot holds the last value that has been put there. -/
theorem value?_run (hrange : s.InRange ordinal) (hempty : s.value? ordinal = .ok none)
    {calls : List (StatementCall ν)} {value : ν} :
    (s.run calls).value? ordinal = .ok (some value) ↔
      StatementCall.IsLastValue calls ordinal value := by
  induction calls using List.reverseRecOn with
  | nil =>
    refine iff_of_false (fun h => ?_) StatementCall.not_isLastValue_nil
    cases hempty.symm.trans h
  | append_singleton calls call ih =>
    rw [run_concat, StatementCall.isLastValue_concat]
    by_cases hput : ∃ slot, call.put? = some (ordinal, slot)
    · obtain ⟨slot, hslot⟩ := hput
      rw [value?_perform_of_put? (inRange_run.mpr hrange) hslot, Except.ok.injEq]
      constructor
      · rintro rfl
        exact .inl (StatementCall.eq_setValue_of_put? hslot)
      · rintro (rfl | ⟨hne, -⟩)
        · exact (Prod.mk.inj (Option.some.inj hslot)).2.symm
        · exact absurd hslot (hne slot)
    · have hne : ∀ slot, call.put? ≠ some (ordinal, slot) := fun slot h => hput ⟨slot, h⟩
      rw [value?_perform_of_ne hne, ih]
      constructor
      · exact fun h => .inr ⟨hne, h⟩
      · rintro (rfl | ⟨-, h⟩)
        · exact absurd rfl (hne (some value))
        · exact h

/-- Calls about other ordinals make no difference to a slot. -/
theorem value?_run_filter (hrange : s.InRange ordinal) (calls : List (StatementCall ν)) :
    (s.run calls).value? ordinal =
      (s.run (calls.filter (·.ordinal? == some ordinal))).value? ordinal := by
  induction calls using List.reverseRecOn with
  | nil => rfl
  | append_singleton calls call ih =>
    rw [run_concat, List.filter_append]
    by_cases hordinal : call.ordinal? = some ordinal
    · rw [List.filter_cons_of_pos (by simpa using hordinal), List.filter_nil, run_concat]
      by_cases hput : ∃ slot, call.put? = some (ordinal, slot)
      · obtain ⟨slot, hslot⟩ := hput
        rw [value?_perform_of_put? (inRange_run.mpr hrange) hslot,
          value?_perform_of_put? (inRange_run.mpr hrange) hslot]
      · have hne : ∀ slot, call.put? ≠ some (ordinal, slot) := fun slot h => hput ⟨slot, h⟩
        rw [value?_perform_of_ne hne, value?_perform_of_ne hne, ih]
    · have hne : ∀ slot, call.put? ≠ some (ordinal, slot) := fun slot h =>
        hordinal (StatementCall.ordinal?_of_put? h)
      rw [List.filter_cons_of_neg (by simpa using hordinal), List.filter_nil, List.append_nil,
        value?_perform_of_ne hne, ih]

/-! ## The statement after calls -/

/-- A statement with declared parameters has kept the values that calls have put. -/
structure KeepsValues (client : Client) (mdx : String) (parameters : List Parameter)
    (calls : List (StatementCall ν)) (s : PreparedStatement ν) : Prop where
  declared : s.Declared client mdx parameters
  /-- Every parameter has one slot. -/
  slots : s.values.toList.length = parameters.length
  /-- Every ordinal in the range reaches its own parameter. -/
  answers : ∀ (position : Nat) (h : position < parameters.length),
    s.Answers (position + 1) parameters[position]
  refuses : ∀ ordinal, ordinal = 0 ∨ parameters.length < ordinal →
    s.Refuses ordinal (.parameterOutOfRange ordinal parameters.length)
  /-- The calls that put something succeed for all ordinals in the range, and no others do. -/
  succeeds : ∀ call, (s.perform call).1 = .ok () ↔
    ∃ ordinal value, call.put? = some (ordinal, value) ∧
      0 < ordinal ∧ ordinal ≤ parameters.length
  /-- A call that fails changes nothing. -/
  fails : ∀ call error, (s.perform call).1 = .error error → (s.perform call).2 = s
  value? : ∀ ordinal, 0 < ordinal → ordinal ≤ parameters.length →
    ∀ value, s.value? ordinal = .ok (some value) ↔
      StatementCall.IsLastValue calls ordinal value
  /-- Calls about other ordinals might as well not have been made. -/
  elsewhere : ∀ ordinal, 0 < ordinal → ordinal ≤ parameters.length →
    s.value? ordinal = ((ofParameters client mdx parameters).run
      (calls.filter (·.ordinal? == some ordinal))).value? ordinal
  /-- What is executed is the statement as it was written. -/
  execute : s.execute = client.execute mdx

theorem value?_ofParameters {client : Client} {mdx : String} {parameters : List Parameter}
    (h : (ofParameters (ν := ν) client mdx parameters).InRange ordinal) :
    (ofParameters (ν := ν) client mdx parameters).value? ordinal = .ok none := by
  obtain ⟨position, -, hposition⟩ := index_of_inRange h
  rw [value?, hposition]
  exact congrArg Except.ok (Vector.getElem_replicate position.isLt)

/-- Whatever calls are made on a statement, each slot holds what the last call on it has put there,
and all else is as it was declared. -/
theorem run_keeps_values (client : Client) (mdx : String) (parameters : List Parameter)
    (calls : List (StatementCall ν)) :
    KeepsValues client mdx parameters calls ((ofParameters client mdx parameters).run calls) := by
  have hstart : Declared client mdx parameters (ofParameters (ν := ν) client mdx parameters) :=
    ⟨rfl, rfl, rfl⟩
  have hdeclared := hstart.run calls
  refine ⟨hdeclared, ?_, fun position => hdeclared.answers, fun ordinal => hdeclared.refuses, ?_,
    fun call error => perform_of_error, ?_, ?_, ?_⟩
  · rw [Vector.length_toList, hdeclared.parameters]
  · intro call
    simp only [perform_ok_iff, hdeclared.inRange_iff]
  · intro ordinal hlow hhigh value
    exact value?_run ⟨hlow, hhigh⟩ (value?_ofParameters ⟨hlow, hhigh⟩)
  · intro ordinal hlow hhigh
    exact value?_run_filter ⟨hlow, hhigh⟩ calls
  · rw [execute, hdeclared.client, hdeclared.mdx]

end PreparedStatement

end CubeClient
