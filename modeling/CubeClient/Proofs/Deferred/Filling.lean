import CubeClient.Proofs.Deferred.Traces
import CubeClient.Proofs.Failure
import CubeClient.Proofs.Lists.Gathering
import CubeClient.Proofs.Lists.Lookup

/-!
# Lists from rows

A handler that needs nothing but the row and the list so far comes to an answer at once, and then
the rows are a loop with an early exit (`fillFrom_done`): a row adds an object, is left out, or ends
it all. So what the loop comes to is said once for all handlers, by its last row (`fill_concat`) or
by the first row that fails (`fill_eq_error_iff`).

A plain handler makes the objects of all rows, as long as no unique name comes again (`PlainFill`).
A merging one makes the first object of each unique name and fails only with what cannot be built
(`MergingFill`).
-/

namespace CubeClient.Deferred

open CubeClient.Xml

/-! ## Rows and what they build -/

section Builds

variable {α : Type} {read : Element → Except ClientError α} {rows : List Element} {row : Element}

/-- Rows build objects, one for one. -/
def Builds (build : Element → Except ClientError α) (rows : List Element) (items : List α) : Prop :=
  rows.map build = items.map .ok

/-- Rows build objects if all but the last do and the last one does. -/
theorem Builds.concat_iff {items : List α} : Builds read (rows ++ [row]) items ↔
    ∃ before item, items = before ++ [item] ∧ Builds read rows before ∧ read row = .ok item := by
  unfold Builds
  rw [List.map_append, List.append_eq_map_iff]
  constructor
  · rintro ⟨before, last, rfl, hbefore, hlast⟩
    obtain ⟨item, rfl, hitem⟩ := List.map_eq_singleton_iff.mp hlast
    exact ⟨before, item, rfl, hbefore.symm, hitem.symm⟩
  · rintro ⟨before, item, rfl, hbefore, hitem⟩
    refine ⟨before, [item], rfl, hbefore.symm, ?_⟩
    rw [List.map_singleton, List.map_singleton, hitem]

theorem map_some_eq_ok_iff {x : Except ClientError α} {item : α} :
    x.map some = .ok (some item) ↔ x = .ok item := by
  simp [map_eq_ok_iff]

end Builds

variable {κ ι : Type} [Named ι] {label : String} {build : Element → Except ClientError ι}
  {rows : List Element} {row : Element} {list longer : NamedList ι} {e : ClientError}

/-! ## The loop -/

/-- What a row becomes if nothing else has to be asked. -/
abbrev RowAnswer (ι : Type) [Named ι] :=
  Element → NamedList ι → Except ClientError (Option ι)

/-- One more row. -/
def addRow (label : String) (answer : RowAnswer ι) (list : NamedList ι) (row : Element) :
    Except ClientError (NamedList ι) :=
  match answer row list with
  | .error e => .error e
  | .ok none => .ok list
  | .ok (some item) =>
    match list.insert? item with
    | some longer => .ok longer
    | none => .error (.duplicateName label (Named.uniqueName item))

/-- What all rows come to. -/
def fill (label : String) (answer : RowAnswer ι) (rows : List Element) :
    Except ClientError (NamedList ι) :=
  rows.foldlM (addRow label answer) .empty

/-- A handler that answers at once turns the rows into a loop. -/
theorem fillFrom_done (label : String) (answer : RowAnswer ι) (rows : List Element)
    (list : NamedList ι) :
    fillFrom (κ := κ) label (fun row list => .done (answer row list)) rows list =
      .done (rows.foldlM (addRow label answer) list) := by
  induction rows generalizing list with
  | nil => rfl
  | cons row rows ih =>
    rw [fillFrom, List.foldlM_cons, addRow]
    rcases answer row list with e | _ | item
    · rfl
    · exact ih list
    · simp only [Program.bind]
      cases list.insert? item with
      | none => rfl
      | some longer => exact ih longer

variable {answer : RowAnswer ι}

/-- A row is added if it is left out, or if its object has a unique name that is new. -/
theorem addRow_eq_ok_iff : addRow label answer list row = .ok longer ↔
    (answer row list = .ok none ∧ longer = list) ∨
      ∃ item, answer row list = .ok (some item) ∧ Named.uniqueName item ∉ list.uniqueNames ∧
        longer.toList = list.toList ++ [item] := by
  unfold addRow
  rcases hanswer : answer row list with e | _ | item
  · simp
  · simp [eq_comm]
  · cases hinsert : list.insert? item with
    | none => simp [hinsert, NamedList.insert?_eq_none_iff.mp hinsert]
    | some other =>
      have hnew := mt NamedList.insert?_eq_none_iff.mpr (hinsert ▸ Option.some_ne_none other)
      have hother := NamedList.toList_of_insert? hinsert
      have hsame : other = longer ↔ longer.toList = list.toList ++ [item] :=
        ⟨fun h => h ▸ hother, fun h => NamedList.ext (hother.trans h.symm)⟩
      simp [hinsert, hnew, hsame]

/-- A row fails if it cannot be built, or if its object has a unique name that is not. -/
theorem addRow_eq_error_iff : addRow label answer list row = .error e ↔
    answer row list = .error e ∨
      ∃ item, answer row list = .ok (some item) ∧ Named.uniqueName item ∈ list.uniqueNames ∧
        e = .duplicateName label (Named.uniqueName item) := by
  unfold addRow
  rcases hanswer : answer row list with e' | _ | item
  · simp
  · simp
  · cases hinsert : list.insert? item with
    | none => simp [hinsert, NamedList.insert?_eq_none_iff.mp hinsert, eq_comm]
    | some other =>
      have hnew := mt NamedList.insert?_eq_none_iff.mpr (hinsert ▸ Option.some_ne_none other)
      simp [hinsert, hnew]

theorem fill_nil : fill label answer [] = .ok .empty :=
  rfl

/-- What the rows come to is said by the last of them. -/
theorem fill_concat (rows : List Element) (row : Element) :
    fill label answer (rows ++ [row]) =
      fill label answer rows >>= fun list => addRow label answer list row := by
  unfold fill
  simp only [List.foldlM_append, List.foldlM_cons, List.foldlM_nil, bind_pure]

theorem fill_concat_eq_ok_iff : fill label answer (rows ++ [row]) = .ok longer ↔
    ∃ list, fill label answer rows = .ok list ∧ addRow label answer list row = .ok longer := by
  rw [fill_concat]
  constructor
  · exact bind_eq_ok
  · rintro ⟨list, hlist, hrow⟩
    rw [hlist]
    exact hrow

/-- Rows fail with the first row that does. -/
theorem fill_eq_error_iff : fill label answer rows = .error e ↔
    ∃ before row after list, rows = before ++ row :: after ∧
      fill label answer before = .ok list ∧ addRow label answer list row = .error e :=
  foldlM_eq_error_iff

/-- A list is made only if no row fails. -/
theorem exists_addRow_of_fill (h : fill label answer rows = .ok list) :
    ∀ row ∈ rows, ∃ shorter longer, addRow label answer shorter row = .ok longer := by
  induction rows using List.reverseRecOn generalizing list with
  | nil => exact fun row hrow => (List.not_mem_nil hrow).elim
  | append_singleton rows last ih =>
    obtain ⟨shorter, hshorter, hlast⟩ := fill_concat_eq_ok_iff.mp h
    intro row hrow
    rcases List.mem_append.mp hrow with hrow | hrow
    · exact ih hshorter row hrow
    · obtain rfl := List.mem_singleton.mp hrow
      exact ⟨shorter, list, hlast⟩

/-- If answers are objects that rows bring, and rows are left out that bring no new name, the list
gathers what the rows bring. -/
theorem gathers_of_fill {bring : Element → Option ι}
    (hadd : ∀ {row : Element} {list : NamedList ι} {item : ι},
      answer row list = .ok (some item) → bring row = some item)
    (hskip : ∀ {rows : List Element} {row : Element} {list : NamedList ι} {item : ι},
      Gathers bring rows list.toList → answer row list = .ok none → bring row = some item →
      Named.uniqueName item ∈ list.uniqueNames)
    (h : fill label answer rows = .ok list) : Gathers bring rows list.toList := by
  induction rows using List.reverseRecOn generalizing list with
  | nil =>
    cases h
    exact .nil
  | append_singleton rows row ih =>
    obtain ⟨shorter, hshorter, hrow⟩ := fill_concat_eq_ok_iff.mp h
    have hgathers := ih hshorter
    rcases addRow_eq_ok_iff.mp hrow with ⟨hnone, rfl⟩ | ⟨item, hsome, hnew, hlist⟩
    · exact hgathers.skip fun item hitem => hskip hgathers hnone hitem
    · rw [hlist]
      exact hgathers.add (hadd hsome) hnew

/-! ## Rows that are objects of their own -/

/-- What becomes of rows that are to be objects of their own. -/
structure PlainFill (label : String) (build : Element → Except ClientError ι) (rows : List Element)
    (outcome : Except ClientError (NamedList ι)) : Prop where
  /-- It succeeds exactly if all rows build and no unique name comes twice. -/
  succeeds : (∃ list, outcome = .ok list) ↔
    ∃ items, Builds build rows items ∧ (items.map Named.uniqueName).Nodup
  /-- The list is then what the rows have built, in their order. -/
  listed : ∀ {list : NamedList ι}, outcome = .ok list → Builds build rows list.toList
  /-- The error is that of the first row that does not build or builds a name that is there. -/
  failed : ∀ {e : ClientError}, outcome = .error e ↔
    ∃ before row after items, rows = before ++ row :: after ∧ Builds build before items ∧
      (items.map Named.uniqueName).Nodup ∧ (build row = .error e ∨
        ∃ item, build row = .ok item ∧ Named.uniqueName item ∈ items.map Named.uniqueName ∧
          e = .duplicateName label (Named.uniqueName item))

/-- A plain handler makes the objects of all rows. -/
theorem fill_plain_eq_ok_iff :
    fill label (fun row _ => (build row).map some) rows = .ok list ↔
      Builds build rows list.toList := by
  induction rows using List.reverseRecOn generalizing list with
  | nil =>
    rw [fill_nil]
    constructor
    · rintro ⟨⟩
      rfl
    · intro h
      exact congrArg _ (NamedList.ext (List.map_eq_nil_iff.mp h.symm).symm)
  | append_singleton rows row ih =>
    rw [fill_concat_eq_ok_iff, Builds.concat_iff]
    constructor
    · rintro ⟨shorter, hshorter, hrow⟩
      rcases addRow_eq_ok_iff.mp hrow with ⟨hnone, -⟩ | ⟨item, hsome, -, hlist⟩
      · obtain ⟨_, -, heq⟩ := map_eq_ok hnone
        cases heq
      · exact ⟨shorter.toList, item, hlist, ih.mp hshorter, map_some_eq_ok_iff.mp hsome⟩
    · rintro ⟨before, item, hlist, hbefore, hitem⟩
      have hnodup := list.nodup
      rw [hlist, List.map_append, List.nodup_append] at hnodup
      obtain ⟨hdistinct, -, hapart⟩ := hnodup
      exact ⟨⟨before, hdistinct⟩, ih.mpr hbefore, addRow_eq_ok_iff.mpr (.inr
        ⟨item, map_some_eq_ok_iff.mpr hitem,
          fun hmem => hapart _ hmem _ (List.mem_singleton_self _) rfl, hlist⟩)⟩

theorem plainFill (label : String) (build : Element → Except ClientError ι) (rows : List Element) :
    PlainFill label build rows (fill label (fun row _ => (build row).map some) rows) where
  succeeds := by
    constructor
    · rintro ⟨list, hlist⟩
      exact ⟨list.toList, fill_plain_eq_ok_iff.mp hlist, list.nodup⟩
    · rintro ⟨items, hitems, hdistinct⟩
      exact ⟨⟨items, hdistinct⟩, fill_plain_eq_ok_iff.mpr hitems⟩
  listed h := fill_plain_eq_ok_iff.mp h
  failed {e} := by
    rw [fill_eq_error_iff]
    simp only [addRow_eq_error_iff, map_eq_error_iff, map_some_eq_ok_iff, fill_plain_eq_ok_iff]
    constructor
    · rintro ⟨before, row, after, list, hrows, hbefore, hrow⟩
      exact ⟨before, row, after, list.toList, hrows, hbefore, list.nodup, hrow⟩
    · rintro ⟨before, row, after, items, hrows, hbefore, hdistinct, hrow⟩
      exact ⟨before, row, after, ⟨items, hdistinct⟩, hrows, hbefore, hrow⟩

/-! ## Rows that may be of one object -/

/-- What becomes of rows of which some may be of objects that are there already. -/
structure MergingFill (build : Element → Except ClientError ι) (rows : List Element)
    (outcome : Except ClientError (NamedList ι)) : Prop where
  /-- It succeeds exactly if all rows build, whatever their names. -/
  succeeds : (∃ list, outcome = .ok list) ↔ ∀ row ∈ rows, ∃ item, build row = .ok item
  /-- The list is then the first object of each unique name, in the order of the rows. -/
  listed : ∀ {list : NamedList ι}, outcome = .ok list →
    Gathers (fun row => (build row).toOption) rows list.toList
  /-- The error is that of the first row that does not build. -/
  failed : ∀ {e : ClientError}, outcome = .error e ↔
    ∃ before row after, rows = before ++ row :: after ∧
      (∀ earlier ∈ before, ∃ item, build earlier = .ok item) ∧ build row = .error e
  /-- So no name is refused. -/
  unrefused : ∀ {label name : String},
    (∀ row ∈ rows, build row ≠ .error (.duplicateName label name)) →
    outcome ≠ .error (.duplicateName label name)

/-- What a row becomes if its object may be there already. -/
def mergingAnswer (build : Element → Except ClientError ι) : RowAnswer ι :=
  fun row list => (build row).map fun item =>
    if list.containsUnique (Named.uniqueName item) then none else some item

theorem mergingAnswer_eq_none_iff : mergingAnswer build row list = .ok none ↔
    ∃ item, build row = .ok item ∧ Named.uniqueName item ∈ list.uniqueNames := by
  simp [mergingAnswer, map_eq_ok_iff, NamedList.containsUnique_iff]

theorem mergingAnswer_eq_some_iff {item : ι} : mergingAnswer build row list = .ok (some item) ↔
    build row = .ok item ∧ Named.uniqueName item ∉ list.uniqueNames := by
  simp only [mergingAnswer, map_eq_ok_iff, NamedList.containsUnique_iff]
  constructor
  · rintro ⟨built, hbuilt, hif⟩
    split at hif
    · cases hif
    · cases hif
      exact ⟨hbuilt, ‹_›⟩
  · rintro ⟨hitem, hnew⟩
    exact ⟨item, hitem, if_neg hnew⟩

/-- A merging handler answers an object only if its name is new, so the list takes it. -/
theorem addRow_merging_eq_error_iff :
    addRow label (mergingAnswer build) list row = .error e ↔ build row = .error e := by
  rw [addRow_eq_error_iff, mergingAnswer, map_eq_error_iff]
  refine ⟨fun h => h.resolve_right ?_, .inl⟩
  rintro ⟨item, hitem, htaken, -⟩
  exact (mergingAnswer_eq_some_iff.mp hitem).2 htaken

/-- A merging handler comes to a list only if all rows can be built. -/
theorem exists_build_of_fill (h : fill label (mergingAnswer build) rows = .ok list) :
    ∀ row ∈ rows, ∃ item, build row = .ok item := by
  intro row hrow
  obtain ⟨shorter, longer, hlonger⟩ := exists_addRow_of_fill h row hrow
  cases hbuild : build row with
  | ok item => exact ⟨item, rfl⟩
  | error e =>
    rw [addRow_merging_eq_error_iff.mpr hbuild] at hlonger
    cases hlonger

/-- A merging handler comes to a list if all rows can be built, since it refuses no unique name. -/
theorem exists_fill_of_build (label : String) (h : ∀ row ∈ rows, ∃ item, build row = .ok item) :
    ∃ list, fill label (mergingAnswer build) rows = .ok list := by
  cases hfill : fill label (mergingAnswer build) rows with
  | ok list => exact ⟨list, rfl⟩
  | error e =>
    obtain ⟨before, row, after, list, rfl, -, hrow⟩ := fill_eq_error_iff.mp hfill
    obtain ⟨item, hitem⟩ := h row (by simp)
    rw [addRow_merging_eq_error_iff, hitem] at hrow
    cases hrow

/-- A merging handler fails with the first row that cannot be built. -/
theorem fill_merging_eq_error_iff : fill label (mergingAnswer build) rows = .error e ↔
    ∃ before row after, rows = before ++ row :: after ∧
      (∀ earlier ∈ before, ∃ item, build earlier = .ok item) ∧ build row = .error e := by
  rw [fill_eq_error_iff]
  constructor
  · rintro ⟨before, row, after, list, hrows, hbefore, hrow⟩
    exact ⟨before, row, after, hrows, exists_build_of_fill hbefore,
      addRow_merging_eq_error_iff.mp hrow⟩
  · rintro ⟨before, row, after, hrows, hbefore, hrow⟩
    obtain ⟨list, hlist⟩ := exists_fill_of_build label hbefore
    exact ⟨before, row, after, list, hrows, hlist, addRow_merging_eq_error_iff.mpr hrow⟩

theorem mergingFill (label : String) (build : Element → Except ClientError ι)
    (rows : List Element) :
    MergingFill build rows (fill label (mergingAnswer build) rows) where
  succeeds := ⟨fun ⟨_, hlist⟩ => exists_build_of_fill hlist, exists_fill_of_build label⟩
  listed h := by
    refine gathers_of_fill (fun hsome => ?_) (fun _ hnone hbring => ?_) h
    · rw [(mergingAnswer_eq_some_iff.mp hsome).1]
      rfl
    · obtain ⟨item, hitem, htaken⟩ := mergingAnswer_eq_none_iff.mp hnone
      rw [hitem] at hbring
      cases hbring
      exact htaken
  failed := fill_merging_eq_error_iff
  unrefused hbuild h := by
    obtain ⟨before, row, after, rfl, -, hrow⟩ := fill_merging_eq_error_iff.mp h
    exact hbuild row (by simp) hrow

/-! ## Rows for which other collections are read -/

namespace Config

variable {c : Config κ ι} {i a : Nat} {children : List Nat} {handler : RowHandler κ ι}
  {outcome : Except ClientError (NamedList ι)}

/-- The rows are those of the reply to the request. -/
theorem Leads.of_populate {message : Message} {decode : Reply → Except ClientError (List Element)}
    (h : c.Leads i a children (populate label handler (.message message decode))
      (.done outcome)) :
    ∃ q reply, c.sent[q]? = some ⟨a, message⟩ ∧ c.reply? q = some reply ∧
      ((∃ e, decode reply = .error e ∧ outcome = .error e) ∨
        ∃ rows, decode reply = .ok rows ∧
          c.Leads i a children (fillFrom label handler rows .empty) (.done outcome)) := by
  obtain ⟨q, reply, hq, hreply, hrest⟩ := Leads.of_send h
  refine ⟨q, reply, hq, hreply, ?_⟩
  cases hdecode : decode reply with
  | error e =>
    simp only [Program.bind, hdecode] at hrest
    obtain ⟨-, hdone⟩ := hrest.of_done
    cases hdone
    exact .inl ⟨e, rfl, rfl⟩
  | ok rows =>
    simp only [Program.bind, hdecode] at hrest
    exact .inr ⟨rows, rfl, hrest⟩

/-- If each row either becomes its answer or fails for a reason of another kind, so do the rows. -/
theorem outcome_of_fillFrom {fault : ClientError → Prop}
    (hrow : ∀ {row : Element} {list : NamedList ι} {others : List Nat}
      {x : Except ClientError (Option ι)}, c.Leads i a others (handler row list) (.done x) →
      x = answer row list ∨ ∃ e, x = .error e ∧ fault e)
    (h : c.Leads i a children (fillFrom label handler rows list) (.done outcome)) :
    outcome = rows.foldlM (addRow label answer) list ∨ ∃ e, outcome = .error e ∧ fault e := by
  induction rows generalizing list children with
  | nil =>
    obtain ⟨-, hdone⟩ := h.of_done
    cases hdone
    exact .inl rfl
  | cons row rows ih =>
    rw [fillFrom] at h
    obtain ⟨x, first, rest, -, hfirst, hrest⟩ := h.of_bind
    rcases hrow hfirst with rfl | ⟨e, rfl, he⟩
    · rw [List.foldlM_cons, addRow]
      generalize answer row list = x at hrest ⊢
      rcases x with e | _ | item
      · obtain ⟨-, hdone⟩ := hrest.of_done
        cases hdone
        exact .inl rfl
      · exact ih hrest
      · simp only at hrest ⊢
        cases hinsert : list.insert? item with
        | none =>
          rw [hinsert] at hrest
          obtain ⟨-, hdone⟩ := hrest.of_done
          cases hdone
          exact .inl rfl
        | some longer =>
          rw [hinsert] at hrest
          exact ih hrest
    · obtain ⟨-, hdone⟩ := hrest.of_done
      cases hdone
      exact .inr ⟨e, rfl, he⟩

end Config

end CubeClient.Deferred
