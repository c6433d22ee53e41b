import CubeClient.Proofs.Deferred.Solo
import CubeClient.Proofs.Envelope.Responses
import CubeClient.Proofs.Metadata.Paths

/-!
# The tree grows

What has been found along a path stays there, whatever happens later (`At.append`). An undisturbed
read that is answered with one row adds the object of this row (`Calm.read_row`), so paths of every
kind exist.
-/

namespace CubeClient

open CubeClient.Deferred CubeClient.Xml

/-! ## What has been found stays -/

section Later

variable {events : List (Event TreeKey)} {connection : Connection} {path : TreePath}
  {o : MetadataObject} {c : Collection} {row : Element}

theorem Held.append {key : TreeKey} (h : Held events key o) (later : List (Event TreeKey)) :
    Held (events ++ later) key o := by
  obtain ⟨listing, hs, ho⟩ := h
  refine ⟨listing, ?_, ho⟩
  rw [Config.run_append]
  exact Config.state_foldl (Config.Coherent.run TreeKey.family events) hs later

theorem Collection.Built.append (h : c.Built events row o) (later : List (Event TreeKey)) :
    c.Built (events ++ later) row o where
  held := h.held.append later
  hasRow := by
    obtain ⟨reply, root, ⟨q, hreply⟩, hread, hrow⟩ := h.hasRow
    exact ⟨reply, root, ⟨q, List.mem_append_left later hreply⟩, hread, hrow⟩
  build := h.build

/-- An object stays where it was found along a path. -/
theorem At.append (h : At events connection path o) (later : List (Event TreeKey)) :
    At (events ++ later) connection path o := by
  induction h with
  | catalog h hx => exact .catalog (h.append later) hx
  | schema _ h hx ih => exact .schema ih (h.append later) hx
  | cube _ h hx ih => exact .cube ih (h.append later) hx
  | measureGroup _ h hx ih => exact .measureGroup ih (h.append later) hx
  | dimension _ h hx ih => exact .dimension ih (h.append later) hx
  | sharedDimension _ h hx ih => exact .sharedDimension ih (h.append later) hx
  | hierarchy _ h hx ih => exact .hierarchy ih (h.append later) hx
  | level _ h hx ih => exact .level ih (h.append later) hx

end Later

/-! ## Reading one row -/

namespace Collection

variable {c : Collection} {row : Element} {o : MetadataObject}

/-- The object of a row is put into an empty list. -/
theorem fillFrom_row (hkind : c.kind ≠ .groupDimensions) (hbuild : c.build row = .ok o) :
    ∃ items, fillFrom c.label c.handler [row] .empty = .done (.ok items) ∧ items.toList = [o] := by
  have hhandler : c.handler row .empty = .done (.ok (some o)) := by
    unfold handler
    rw [if_neg hkind]
    split
    · unfold RowHandler.merging
      rw [hbuild]
      rfl
    · unfold RowHandler.plain
      rw [hbuild]
      rfl
  cases hinsert : (NamedList.empty : NamedList MetadataObject).insert? o with
  | none =>
    rw [NamedList.insert?_eq_none_iff] at hinsert
    exact (List.not_mem_nil hinsert).elim
  | some items =>
    refine ⟨items, ?_, NamedList.toList_of_insert? hinsert⟩
    simp only [fillFrom, hhandler, Program.bind, hinsert]

end Collection

open Config in
/-- An undisturbed read that is answered with one row. -/
theorem Deferred.Config.Calm.read_row {events : List (Event TreeKey)} {n : Nat} {c : Collection}
    {fields : List (String × String)} {o : MetadataObject}
    (h : (Config.run TreeKey.family events).Calm n) (hplain : Envelope.PlainRows [fields])
    (hcheck : c.check = .ok ()) (hkind : c.kind ≠ .groupDimensions)
    (hcell : (Config.run TreeKey.family events).cells (.listed c) = ⟨.empty, none⟩)
    (hbuild : c.build (Envelope.rowElement fields) = .ok o) :
    (Config.run TreeKey.family
        (events ++ soloRead n (.listed c) (rowReply fields))).Calm (n + 1) ∧
      (∀ key, key ≠ .listed c → (Config.run TreeKey.family
          (events ++ soloRead n (.listed c) (rowReply fields))).cells key =
        (Config.run TreeKey.family events).cells key) ∧
      c.Built (events ++ soloRead n (.listed c) (rowReply fields))
        (Envelope.rowElement fields) o := by
  obtain ⟨root, hread, hrows⟩ := rowsOf_rowReply hplain
  obtain ⟨items, hitems, hlist⟩ := Collection.fillFrom_row hkind hbuild
  have hrow : (Client.readPayload (rowReply fields)).map (Client.rowsOf c.query.request) =
      .ok [Envelope.rowElement fields] := by
    rw [hread, Except.map, hrows]
  obtain ⟨message, next, hprogram, hnext⟩ : ∃ message next,
      TreeKey.family.program (.listed c) = .send message next ∧
        next (rowReply fields) = .done (.ok items) := by
    refine ⟨_, _, Collection.program_of_check hcheck, ?_⟩
    simp only [hrow]
    exact hitems
  obtain ⟨hcalm, hcells⟩ := h.foldl_soloRead hcell hprogram hnext
  rw [← Config.run_append] at hcalm hcells
  refine ⟨hcalm, fun key hkey => ?_, ?_, ?_, hbuild⟩
  · rw [hcells]
    exact if_neg hkey
  · have hmem : o ∈ items.toList := by
      rw [hlist]
      exact List.mem_singleton.mpr rfl
    refine ⟨⟨(Config.run TreeKey.family events).attempts.length, items⟩, ?_, hmem⟩
    rw [hcells]
    exact congrArg Cell.state (if_pos rfl)
  · refine ⟨rowReply fields, root, ⟨n, ?_⟩, hread, by simp [hrows]⟩
    exact List.mem_append_right events (by simp [soloRead])

/-! ## A small tree -/

/-- A connection whose session is in another catalog than the one that is listed. -/
def foodMart : Connection where
  number := 0
  client := { localCatalogs.scope.client with session := { catalog := some "Sales" } }

/-- The catalog that is listed. -/
def foodMartCatalog : MetadataObject where
  scope := foodMart.scope.child .catalogs "FoodMart" { catalog := some "FoodMart" }
  detail := .catalog { name := "FoodMart", description := none }

/-- The schema of the catalog. -/
def foodMartSchema : MetadataObject where
  scope := foodMartCatalog.scope.child .schemas "Public"
    { catalog := some "FoodMart", schema := some "Public" }
  detail := .schema { name := "Public" }

/-- The catalogs are read, and then the schemas. The row of the schema names another catalog. -/
def schemaReads : List (Event TreeKey) :=
  Config.soloRead 0 (.listed ⟨foodMart.scope, .catalogs⟩)
      (rowReply [("CATALOG_NAME", "FoodMart")]) ++
    Config.soloRead 1 (.listed ⟨foodMartCatalog.scope, .schemas⟩)
      (rowReply [("CATALOG_NAME", "Sales"), ("SCHEMA_NAME", "Public")])

/-- Two undisturbed reads lead to the schema, and fill nothing else. -/
theorem schemaReads_calm :
    (Config.run TreeKey.family schemaReads).Calm 2 ∧
    (∀ key, key ≠ .listed ⟨foodMart.scope, .catalogs⟩ →
      key ≠ .listed ⟨foodMartCatalog.scope, .schemas⟩ →
      (Config.run TreeKey.family schemaReads).cells key = ⟨.empty, none⟩) ∧
    At schemaReads foodMart (.schema "FoodMart" "Public") foodMartSchema := by
  have hplain : Envelope.PlainRows [[("CATALOG_NAME", "FoodMart")]] ∧
      Envelope.PlainRows [[("CATALOG_NAME", "Sales"), ("SCHEMA_NAME", "Public")]] := by
    unfold Envelope.PlainRows
    decide
  have hinitial : (Config.run TreeKey.family []).Calm 0 := .initial
  obtain ⟨hcalm, hcells, hcatalog⟩ := hinitial.read_row hplain.1
    (c := ⟨foodMart.scope, .catalogs⟩) (o := foodMartCatalog) rfl (by simp) rfl rfl
  obtain ⟨hcalm', hcells', hschema⟩ := Config.Calm.read_row hcalm hplain.2
    (c := ⟨foodMartCatalog.scope, .schemas⟩) (o := foodMartSchema) rfl (by simp)
    (hcells _ (by simp)) rfl
  refine ⟨hcalm', fun key hcatalogs hschemas => ?_, ?_⟩
  · exact (hcells' key hschemas).trans (hcells key hcatalogs)
  · exact .schema (.catalog (hcatalog.append _) rfl) hschema rfl

end CubeClient
