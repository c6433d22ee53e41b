import CubeClient.Metadata.Collection
import CubeClient.Metadata.Member
import CubeClient.Proofs.Failure

/-!
# What rows become

A row that cannot be read has a field at fault, so the error is one of the population, though never
that of a name that is taken. A row that can be read becomes an object of the kind of its
collection, and gives the object's own collections their context (`Reads`).
-/

namespace CubeClient

open CubeClient.Xml

/-- The rows of an answer could not be made into objects. -/
abbrev RowFault (e : ClientError) : Prop :=
  e.isPopulation = true

/-- A field of a row is missing or cannot be read. -/
inductive FieldFault : ClientError → Prop
  | missing (field : String) : FieldFault (.missingField field)
  | invalid (field value : String) (fault : NumberFault) :
      FieldFault (.invalidField field value fault)

/-- What is wrong with a field is wrong with its row. -/
theorem FieldFault.rowFault {e : ClientError} (h : FieldFault e) : RowFault e := by
  cases h <;> rfl

/-! ## Fields -/

namespace Field

variable (row : Element) (name : String)

theorem string_fails : FailsAs FieldFault (string row name) := by
  unfold string
  split
  · exact .ok _
  · exact .error (.missing _)

theorem optional_fails {α : Type} (read : String → Except NumberFault α) :
    FailsAs FieldFault (optional read row name) := by
  unfold optional
  split
  · exact .ok _
  · split
    · exact .ok _
    · split
      · exact .ok _
      · exact .error (.invalid _ _ _)

theorem strict_fails {α : Type} (read : String → Except NumberFault α) :
    FailsAs FieldFault (strict read row name) := by
  unfold strict
  split
  · rename_i e h
    exact .error (optional_fails row name read e h)
  · exact .error (.missing _)
  · exact .ok _

theorem int32?_fails : FailsAs FieldFault (int32? row name) :=
  optional_fails row name _

theorem signed_fails (bits : Nat) : FailsAs FieldFault (signed bits row name) :=
  strict_fails row name _

end Field

/-! ## Rows -/

section Objects

open CubeClient.Field

variable (row : Element)

theorem Catalog.ofRow_fails : FailsAs FieldFault (Catalog.ofRow row) :=
  .bind (string_fails row _) fun _ => .ok _

theorem Schema.ofRow_fails : FailsAs FieldFault (Schema.ofRow row) :=
  .bind (string_fails row _) fun _ => .ok _

theorem Schema.scope_fails (context : Context) (schema : Schema) :
    FailsAs FieldFault (schema.scope context row) := by
  unfold Schema.scope
  split
  · exact .ok _
  · exact .bind (string_fails row _) fun _ => .ok _

theorem Cube.ofRow_fails : FailsAs FieldFault (Cube.ofRow row) :=
  .bind (string_fails row _) fun _ => .ok _

theorem Dimension.readType_fails : FailsAs FieldFault (Dimension.readType row) := by
  refine .bind (int32?_fails row _) fun code => ?_
  split
  · exact .ok _
  · split
    · exact .ok _
    · exact .error (.invalid _ _ _)

theorem Dimension.ofRow_fails : FailsAs FieldFault (Dimension.ofRow row) :=
  .bind (string_fails row _) fun _ =>
  .bind (string_fails row _) fun _ =>
  .bind (readType_fails row) fun _ =>
  .bind (int32?_fails row _) fun _ => .ok _

theorem Hierarchy.ofRow_fails : FailsAs FieldFault (Hierarchy.ofRow row) :=
  .bind (string_fails row _) fun _ =>
  .bind (string_fails row _) fun _ => .ok _

theorem Level.ofRow_fails : FailsAs FieldFault (Level.ofRow row) :=
  .bind (string_fails row _) fun _ =>
  .bind (string_fails row _) fun _ =>
  .bind (signed_fails row _ _) fun _ =>
  .bind (int32?_fails row _) fun _ =>
  .bind (int32?_fails row _) fun _ => .ok _

theorem Measure.ofRow_fails (context : Context) : FailsAs FieldFault (Measure.ofRow context row) :=
  .bind (string_fails row _) fun _ =>
  .bind (int32?_fails row _) fun _ =>
  .bind (string_fails row _) fun _ =>
  .bind (int32?_fails row _) fun _ => .ok _

theorem MeasureGroup.ofRow_fails : FailsAs FieldFault (MeasureGroup.ofRow row) :=
  .bind (string_fails row _) fun _ => .ok _

theorem DataSource.ofRow_fails : FailsAs FieldFault (DataSource.ofRow row) :=
  .bind (string_fails row _) fun _ => .ok _

theorem Literal.ofRow_fails : FailsAs FieldFault (Literal.ofRow row) :=
  .bind (string_fails row _) fun _ =>
  .bind (int32?_fails row _) fun _ => .ok _

theorem Member.ofRow_fails (context : Context) : FailsAs FieldFault (Member.ofRow context row) :=
  .bind (string_fails row _) fun _ =>
  .bind (string_fails row _) fun _ =>
  .bind (signed_fails row _ _) fun _ =>
  .bind (int32?_fails row _) fun _ =>
  .bind (int32?_fails row _) fun _ =>
  .bind (int32?_fails row _) fun _ => .ok _

theorem QueryFunction.ofRow_fails : FailsAs FieldFault (QueryFunction.ofRow row) :=
  .bind (string_fails row _) fun _ =>
  .bind (int32?_fails row _) fun _ =>
  .bind (int32?_fails row _) fun _ => .ok _

end Objects

/-! ## Objects of a collection -/

namespace Collection

variable {c : Collection} {row : Element}

/-- Rows of every kind fail in a field. -/
theorem readRow_fails (c : Collection) (row : Element) : FailsAs FieldFault (c.readRow row) := by
  unfold readRow
  split
  · exact .bind (Catalog.ofRow_fails row) fun _ => .ok _
  · exact .bind (DataSource.ofRow_fails row) fun _ => .ok _
  · exact .bind (Literal.ofRow_fails row) fun _ => .ok _
  · exact .bind (Schema.ofRow_fails row) fun schema =>
      .bind (Schema.scope_fails row c.scope.context schema) fun _ => .ok _
  · exact .bind (Cube.ofRow_fails row) fun _ => .ok _
  · exact .bind (Dimension.ofRow_fails row) fun _ => .ok _
  · exact .bind (Dimension.ofRow_fails row) fun _ => .ok _
  · exact .bind (Dimension.ofRow_fails row) fun _ => .ok _
  · exact .bind (Measure.ofRow_fails row c.scope.context) fun _ => .ok _
  · exact .bind (Measure.ofRow_fails row c.scope.context) fun _ => .ok _
  · exact .bind (MeasureGroup.ofRow_fails row) fun _ => .ok _
  · exact .bind (Hierarchy.ofRow_fails row) fun _ => .ok _
  · exact .bind (Level.ofRow_fails row) fun _ => .ok _

/-- Objects of every kind fail in a field of their row. -/
theorem build_fails (c : Collection) (row : Element) : FailsAs FieldFault (c.build row) :=
  (readRow_fails c row).map _

/-- What a row of a collection can say, and the context that the object's own collections have for
it. Of a schema the row may have to name the catalog. -/
inductive Reads (context : Context) (row : Element) : CollectionKind → Detail → Context → Prop
  | catalog (x : Catalog) :
      Reads context row .catalogs (.catalog x) { context with catalog := some x.name }
  | dataSource (x : DataSource) : Reads context row .dataSources (.dataSource x) context
  | literal (x : Literal) : Reads context row .literals (.literal x) context
  | schema (x : Schema) {inner : Context} (h : x.scope context row = .ok inner) :
      Reads context row .schemas (.schema x) inner
  | cube (x : Cube) : Reads context row .cubes (.cube x) (x.scope context row)
  | sharedDimension (x : Dimension) :
      Reads context row .sharedDimensions (.dimension x) (x.scope context row)
  | dimension (x : Dimension) :
      Reads context row .dimensions (.dimension x) (x.scope context row)
  | groupDimension (x : Dimension) :
      Reads context row .groupDimensions (.dimension x) (x.scope context row)
  | measure (x : Measure) : Reads context row .measures (.measure x) context
  | groupMeasure (x : Measure) : Reads context row .groupMeasures (.measure x) context
  | measureGroup (x : MeasureGroup) :
      Reads context row .measureGroups (.measureGroup x)
        { context with measureGroup := some x.name }
  | hierarchy (x : Hierarchy) : Reads context row .hierarchies (.hierarchy x) (x.scope context row)
  | level (x : Level) : Reads context row .levels (.level x) (x.scope context row)

/-- What a row is read as says what of the row it depends on. -/
theorem reads_of_readRow {detail : Detail} {context : Context}
    (h : c.readRow row = .ok (detail, context)) :
    Reads c.scope.context row c.kind detail context := by
  unfold readRow at h
  cases hkind : c.kind <;> simp only [hkind] at h <;> obtain ⟨x, -, h⟩ := bind_eq_ok h
  case schemas =>
    obtain ⟨inner, hinner, h⟩ := bind_eq_ok h
    cases h
    exact .schema x hinner
  all_goals
    cases h
    constructor

/-- An object that a row has become is in the collection's own place, below its unique name. -/
theorem reads_of_build {o : MetadataObject} (h : c.build row = .ok o) :
    ∃ context, Reads c.scope.context row c.kind o.detail context ∧
      o.scope = c.scope.child c.kind o.detail.uniqueName context := by
  obtain ⟨⟨detail, context⟩, hread, rfl⟩ := map_eq_ok h
  exact ⟨context, reads_of_readRow hread, rfl⟩

end Collection

end CubeClient
