import CubeClient.Proofs.Metadata.Sources
import CubeClient.Session.Walk

/-!
# Paths of objects

A path holds the names that lead from the catalogs of a connection down to an object. What is found
along a path has the context of the path (`At.context`), so its collections are restricted to the
names of the path and to nothing else. Whatever can be reached from a connection has a path, or no
collections at all (`Reachable.at`).
-/

namespace CubeClient

open CubeClient.Deferred CubeClient.Xml

/-- Where a dimension is listed: in a cube, or outside all cubes of a schema. In a schema a row may
have named a cube. -/
inductive Home where
  | cube (catalog schema cube : String)
  | schema (catalog schema : String) (named : Option String)

namespace Home

/-- What a row adds: where no cube has been named yet, it may name one. -/
def note (home : Home) (row : Element) : Home :=
  match home with
  | .cube c s q => .cube c s q
  | .schema c s named => .schema c s (named.or (Field.nonempty? row "CUBE_NAME"))

/-- The names down to the cube. -/
def names : Home → List (String × String)
  | .cube c s q => [("CATALOG_NAME", c), ("SCHEMA_NAME", s), ("CUBE_NAME", q)]
  | .schema c s none => [("CATALOG_NAME", c), ("SCHEMA_NAME", s)]
  | .schema c s (some q) => [("CATALOG_NAME", c), ("SCHEMA_NAME", s), ("CUBE_NAME", q)]

/-- The catalog that a home is in. -/
def top : Home → String
  | .cube c _ _ => c
  | .schema c _ _ => c

/-- The context of a home. -/
def context : Home → Context
  | .cube c s q => { catalog := some c, schema := some s, cube := some q }
  | .schema c s named => { catalog := some c, schema := some s, cube := named }

end Home

/-- The names on the way to an object. Dimensions and what is below go by their unique names. -/
inductive TreePath where
  | catalog (catalog : String)
  | schema (catalog schema : String)
  | cube (catalog schema cube : String)
  | measureGroup (catalog schema cube group : String)
  | dimension (home : Home) (dimension : String)
  | hierarchy (home : Home) (dimension hierarchy : String)
  | level (home : Home) (dimension hierarchy level : String)

namespace TreePath

/-- The catalog that a path starts from. -/
def top : TreePath → String
  | .catalog c => c
  | .schema c _ => c
  | .cube c _ _ => c
  | .measureGroup c _ _ _ => c
  | .dimension home _ => home.top
  | .hierarchy home _ _ => home.top
  | .level home _ _ _ => home.top

/-- The names of a path down to the cube. -/
def base : TreePath → List (String × String)
  | .catalog c => [("CATALOG_NAME", c)]
  | .schema c s => [("CATALOG_NAME", c), ("SCHEMA_NAME", s)]
  | .cube c s q => (Home.cube c s q).names
  | .measureGroup c s q _ => (Home.cube c s q).names
  | .dimension home _ => home.names
  | .hierarchy home _ _ => home.names
  | .level home _ _ _ => home.names

/-- The names that what is listed at the end of a path is narrowed to. -/
def names (path : TreePath) : List (String × String) :=
  path.base ++
    match path with
    | .measureGroup _ _ _ g => [("MEASUREGROUP_NAME", g)]
    | .dimension _ d => [("DIMENSION_UNIQUE_NAME", d)]
    | .hierarchy _ d h => [("DIMENSION_UNIQUE_NAME", d), ("HIERARCHY_UNIQUE_NAME", h)]
    | .level _ _ _ l => [("LEVEL_UNIQUE_NAME", l)]
    | _ => []

/-- The context of a path. -/
def context : TreePath → Context
  | .catalog c => { catalog := some c }
  | .schema c s => { catalog := some c, schema := some s }
  | .cube c s q => (Home.cube c s q).context
  | .measureGroup c s q g => { (Home.cube c s q).context with measureGroup := some g }
  | .dimension home d => { home.context with dimension := some d }
  | .hierarchy home d h => { home.context with dimension := some d, hierarchy := some h }
  | .level home d h l =>
    { home.context with dimension := some d, hierarchy := some h, level := some l }

/-- The collections at the end of a path. -/
inductive Opens : TreePath → CollectionKind → Prop
  | schemas {catalog : String} : Opens (.catalog catalog) .schemas
  | cubes {catalog schema : String} : Opens (.schema catalog schema) .cubes
  | sharedDimensions {catalog schema : String} : Opens (.schema catalog schema) .sharedDimensions
  | dimensions {catalog schema cube : String} : Opens (.cube catalog schema cube) .dimensions
  | measures {catalog schema cube : String} : Opens (.cube catalog schema cube) .measures
  | measureGroups {catalog schema cube : String} : Opens (.cube catalog schema cube) .measureGroups
  | groupDimensions {catalog schema cube group : String} :
      Opens (.measureGroup catalog schema cube group) .groupDimensions
  | groupMeasures {catalog schema cube group : String} :
      Opens (.measureGroup catalog schema cube group) .groupMeasures
  | hierarchies {home : Home} {dimension : String} : Opens (.dimension home dimension) .hierarchies
  | levels {home : Home} {dimension hierarchy : String} :
      Opens (.hierarchy home dimension hierarchy) .levels

end TreePath

/-- What is found along a path, after a run. -/
inductive At (events : List (Event TreeKey)) (connection : Connection) :
    TreePath → MetadataObject → Prop
  | catalog {row : Element} {o : MetadataObject} {x : Catalog}
      (h : Collection.Built events ⟨connection.scope, .catalogs⟩ row o)
      (hx : o.detail = .catalog x) : At events connection (.catalog x.name) o
  | schema {catalog : String} {row : Element} {p o : MetadataObject} {x : Schema}
      (hp : At events connection (.catalog catalog) p)
      (h : Collection.Built events ⟨p.scope, .schemas⟩ row o)
      (hx : o.detail = .schema x) : At events connection (.schema catalog x.name) o
  | cube {catalog schema : String} {row : Element} {p o : MetadataObject} {x : Cube}
      (hp : At events connection (.schema catalog schema) p)
      (h : Collection.Built events ⟨p.scope, .cubes⟩ row o)
      (hx : o.detail = .cube x) : At events connection (.cube catalog schema x.name) o
  | measureGroup {catalog schema cube : String} {row : Element} {p o : MetadataObject}
      {x : MeasureGroup} (hp : At events connection (.cube catalog schema cube) p)
      (h : Collection.Built events ⟨p.scope, .measureGroups⟩ row o)
      (hx : o.detail = .measureGroup x) :
      At events connection (.measureGroup catalog schema cube x.name) o
  | dimension {catalog schema cube : String} {row : Element} {p o : MetadataObject}
      {x : Dimension} (hp : At events connection (.cube catalog schema cube) p)
      (h : Collection.Built events ⟨p.scope, .dimensions⟩ row o)
      (hx : o.detail = .dimension x) :
      At events connection (.dimension (.cube catalog schema cube) x.uniqueName) o
  | sharedDimension {catalog schema : String} {row : Element} {p o : MetadataObject}
      {x : Dimension} (hp : At events connection (.schema catalog schema) p)
      (h : Collection.Built events ⟨p.scope, .sharedDimensions⟩ row o)
      (hx : o.detail = .dimension x) :
      At events connection
        (.dimension (.schema catalog schema (Field.nonempty? row "CUBE_NAME")) x.uniqueName) o
  | hierarchy {home : Home} {dimension : String} {row : Element} {p o : MetadataObject}
      {x : Hierarchy} (hp : At events connection (.dimension home dimension) p)
      (h : Collection.Built events ⟨p.scope, .hierarchies⟩ row o)
      (hx : o.detail = .hierarchy x) :
      At events connection (.hierarchy (home.note row) dimension x.uniqueName) o
  | level {home : Home} {dimension hierarchy : String} {row : Element} {p o : MetadataObject}
      {x : Level} (hp : At events connection (.hierarchy home dimension hierarchy) p)
      (h : Collection.Built events ⟨p.scope, .levels⟩ row o)
      (hx : o.detail = .level x) :
      At events connection (.level home dimension hierarchy x.uniqueName) o

variable {events : List (Event TreeKey)} {connection : Connection} {path : TreePath}
  {o p : MetadataObject}

/-! ## Contexts -/

/-- Objects are read through the client of their connection, in a given context. -/
structure Placed (connection : Connection) (context : Context) (o : MetadataObject) : Prop where
  client : o.scope.client = connection.client
  context : o.scope.context = context

theorem Placed.of_built {outer context : Context} {scope : Scope} {kind : CollectionKind}
    {row : Element} {detail : Detail} (hclient : scope.client = connection.client)
    (houter : scope.context = outer) (h : Collection.Built events ⟨scope, kind⟩ row o)
    (hx : o.detail = detail)
    (hcontext : ∀ inner, Collection.Reads outer row kind detail inner → inner = context) :
    Placed connection context o := by
  subst houter hx
  obtain ⟨inner, hreads, hscope⟩ := Collection.reads_of_build h.build
  obtain rfl := hcontext inner hreads
  exact ⟨by rw [hscope]; exact hclient, by rw [hscope]; rfl⟩

/-- The context of an object is that of its path, whatever rows it came from. -/
theorem At.placed (h : At events connection path o) : Placed connection path.context o := by
  induction h with
  | catalog h hx =>
    refine .of_built rfl rfl h hx fun inner hreads => ?_
    cases hreads
    rfl
  | schema _ h hx ih =>
    refine .of_built ih.client ih.context h hx fun inner hreads => ?_
    cases hreads with
    | schema _ hinner =>
      cases hinner
      rfl
  | cube _ h hx ih =>
    refine .of_built ih.client ih.context h hx fun inner hreads => ?_
    cases hreads
    rfl
  | measureGroup _ h hx ih =>
    refine .of_built ih.client ih.context h hx fun inner hreads => ?_
    cases hreads
    rfl
  | dimension _ h hx ih =>
    refine .of_built ih.client ih.context h hx fun inner hreads => ?_
    cases hreads
    rfl
  | sharedDimension _ h hx ih =>
    refine .of_built ih.client ih.context h hx fun inner hreads => ?_
    cases hreads
    rfl
  | @hierarchy home _ _ _ _ _ _ h hx ih =>
    refine .of_built ih.client ih.context h hx fun inner hreads => ?_
    cases hreads
    cases home <;> rfl
  | level _ h hx ih =>
    refine .of_built ih.client ih.context h hx fun inner hreads => ?_
    cases hreads
    rfl

/-! ## Collections of an object -/

/-- What can be read of an object at the end of a path. -/
inductive TreePath.Reads (path : TreePath) (scope : Scope) : TreeKey → Prop
  | listed {kind : CollectionKind} (h : path.Opens kind) : Reads path scope (.listed ⟨scope, kind⟩)
  | derived {kind : CollectionKind} (h : path.Opens kind)
      (hkind : kind = .dimensions ∨ kind = .groupDimensions) :
      Reads path scope (.derived ⟨scope, kind⟩)

/-- A path ends in the name of an object of the kind that it is for. -/
inductive TreePath.EndsIn : TreePath → Detail → Prop
  | catalog (x : Catalog) : EndsIn (.catalog x.name) (.catalog x)
  | schema {catalog : String} (x : Schema) : EndsIn (.schema catalog x.name) (.schema x)
  | cube {catalog schema : String} (x : Cube) : EndsIn (.cube catalog schema x.name) (.cube x)
  | measureGroup {catalog schema cube : String} (x : MeasureGroup) :
      EndsIn (.measureGroup catalog schema cube x.name) (.measureGroup x)
  | dimension {home : Home} (x : Dimension) :
      EndsIn (.dimension home x.uniqueName) (.dimension x)
  | hierarchy {home : Home} {dimension : String} (x : Hierarchy) :
      EndsIn (.hierarchy home dimension x.uniqueName) (.hierarchy x)
  | level {home : Home} {dimension hierarchy : String} (x : Level) :
      EndsIn (.level home dimension hierarchy x.uniqueName) (.level x)

/-- A path ends in an object of the kind that its last step names. -/
theorem At.endsIn (h : At events connection path o) : path.EndsIn o.detail := by
  cases h with
  | catalog _ hx => exact hx ▸ .catalog _
  | schema _ _ hx => exact hx ▸ .schema _
  | cube _ _ hx => exact hx ▸ .cube _
  | measureGroup _ _ hx => exact hx ▸ .measureGroup _
  | dimension _ _ hx => exact hx ▸ .dimension _
  | sharedDimension _ _ hx => exact hx ▸ .dimension _
  | hierarchy _ _ hx => exact hx ▸ .hierarchy _
  | level _ _ hx => exact hx ▸ .level _

/-- The collections of an object are those that its path reads. -/
theorem At.reads {name : String} {key : TreeKey} (h : At events connection path o)
    (hkey : o.collection? name = some key) : path.Reads o.scope key := by
  have hends := h.endsIn
  unfold MetadataObject.collection? at hkey
  split at hkey <;> cases hkey <;> rename o.detail = _ => hx <;> rw [hx] at hends <;> cases hends
  · exact .listed .schemas
  · exact .listed .cubes
  · exact .listed .sharedDimensions
  · exact .listed .dimensions
  · exact .listed .measures
  · exact .listed .measureGroups
  · exact .derived .dimensions (Or.inl rfl)
  · exact .listed .groupDimensions
  · exact .listed .groupMeasures
  · exact .derived .groupDimensions (Or.inr rfl)
  · exact .listed .hierarchies
  · exact .listed .levels

theorem At.opens {kind : CollectionKind} (h : At events connection path o)
    (hopens : path.Opens kind) : ∃ name, o.collection? name = some (.listed ⟨o.scope, kind⟩) := by
  have hends := h.endsIn
  unfold MetadataObject.collection?
  cases hopens <;> generalize o.detail = detail at hends ⊢ <;> cases hends
  · exact ⟨"schemas", rfl⟩
  · exact ⟨"cubes", rfl⟩
  · exact ⟨"shared_dimensions", rfl⟩
  · exact ⟨"dimensions", rfl⟩
  · exact ⟨"measures", rfl⟩
  · exact ⟨"measure_groups", rfl⟩
  · exact ⟨"dimensions", rfl⟩
  · exact ⟨"measures", rfl⟩
  · exact ⟨"hierarchies", rfl⟩
  · exact ⟨"levels", rfl⟩

/-- A collection is restricted to the names of the path; shared dimensions also to their source. -/
theorem At.query {kind : CollectionKind} (h : At events connection path o)
    (hopens : path.Opens kind) : (⟨o.scope, kind⟩ : Collection).query = ⟨kind.request,
      ⟨path.names ++ if kind = .sharedDimensions then [("CUBE_SOURCE", "2")] else []⟩⟩ := by
  unfold Collection.query
  rw [h.placed.context]
  cases hopens with
  | hierarchies => rename_i home _; rcases home with _ | ⟨_, _, _ | _⟩ <;> rfl
  | levels => rename_i home _ _; rcases home with _ | ⟨_, _, _ | _⟩ <;> rfl
  | _ => rfl

/-! ## Objects of a collection -/

/-- A measure group is where its cube is. -/
theorem At.cubeOfGroup_scope {catalog schema cube : String} {row : Element}
    (hp : At events connection (.cube catalog schema cube) p)
    (h : Collection.Built events ⟨p.scope, .measureGroups⟩ row o) :
    o.scope.cubeOfGroup = p.scope := by
  obtain ⟨inner, hreads, hscope⟩ := Collection.reads_of_build h.build
  generalize o.detail = detail at hreads hscope
  cases hreads
  have hplace (name : String) :
      (p.scope.place.child .measureGroups name).parent = p.scope.place := by
    simp [Place.child, Place.parent]
  have hcontext : { p.scope.context with measureGroup := none } = p.scope.context := by
    rw [hp.placed.context]
    rfl
  rw [hscope]
  simp only [Scope.cubeOfGroup, Scope.child, hplace, hcontext]

/-- The cube that a measure group asks about is the one above it on the path. -/
theorem At.cubeOfGroup {catalog schema cube group : String}
    (h : At events connection (.measureGroup catalog schema cube group) o) :
    ∃ p, At events connection (.cube catalog schema cube) p ∧ o.scope.cubeOfGroup = p.scope := by
  cases h with
  | measureGroup hp h => exact ⟨_, hp, hp.cubeOfGroup_scope h⟩

/-- What has no collections and sends no requests. -/
inductive Detail.IsLeaf : Detail → Prop
  | measure (x : Measure) : IsLeaf (.measure x)
  | dataSource (x : DataSource) : IsLeaf (.dataSource x)
  | literal (x : Literal) : IsLeaf (.literal x)

/-- What is built from a collection along a path is at the end of a longer one, or has nothing below
it. -/
theorem At.of_built {kind : CollectionKind} {row : Element} (hp : At events connection path p)
    (hopens : path.Opens kind) (hkind : kind ≠ .groupDimensions)
    (h : Collection.Built events ⟨p.scope, kind⟩ row o) :
    (∃ path', At events connection path' o) ∨ o.detail.IsLeaf := by
  obtain ⟨detail, inner, hx, hreads⟩ := h.reads
  cases hopens with
  | schemas => cases hreads; exact Or.inl ⟨_, .schema hp h hx⟩
  | cubes => cases hreads; exact Or.inl ⟨_, .cube hp h hx⟩
  | sharedDimensions => cases hreads; exact Or.inl ⟨_, .sharedDimension hp h hx⟩
  | dimensions => cases hreads; exact Or.inl ⟨_, .dimension hp h hx⟩
  | measures => cases hreads; exact Or.inr (hx ▸ .measure _)
  | measureGroups => cases hreads; exact Or.inl ⟨_, .measureGroup hp h hx⟩
  | groupDimensions => exact absurd rfl hkind
  | groupMeasures => cases hreads; exact Or.inr (hx ▸ .measure _)
  | hierarchies => cases hreads; exact Or.inl ⟨_, .hierarchy hp h hx⟩
  | levels => cases hreads; exact Or.inl ⟨_, .level hp h hx⟩

/-- Dimensions of a cube or of a measure group are the cube's. -/
theorem At.dimensions {kind : CollectionKind} {d : MetadataObject}
    (hp : At events connection path p) (hopens : path.Opens kind)
    (hkind : kind = .dimensions ∨ kind = .groupDimensions)
    (hd : Held events (.listed ⟨p.scope, kind⟩) d) :
    ∃ below, At events connection below d ∧ below.Opens .hierarchies ∧ below.base = path.base := by
  have hcube : ∀ {catalog schema cube : String} {q : MetadataObject},
      At events connection (.cube catalog schema cube) q →
      Held events (.listed ⟨q.scope, .dimensions⟩) d →
      ∃ below, At events connection below d ∧ below.Opens .hierarchies ∧
        below.base = (Home.cube catalog schema cube).names := by
    intro catalog schema cube q hq hd
    obtain ⟨row, hbuilt⟩ := hd.built (by simp)
    obtain ⟨detail, inner, hx, hreads⟩ := hbuilt.reads
    cases hreads
    exact ⟨_, .dimension hq hbuilt hx, .hierarchies, rfl⟩
  cases hopens with
  | dimensions => exact hcube hp hd
  | groupDimensions =>
    obtain ⟨q, hq, hscope⟩ := hp.cubeOfGroup
    have hheld := hd.ofCube rfl
    rw [Collection.cubeDimensions, hscope] at hheld
    exact hcube hq hheld
  | _ => rcases hkind with h | h <;> cases h

/-- What any collection along a path holds is at the end of a longer path, or has nothing below
it. -/
theorem At.step {key : TreeKey} (hp : At events connection path p)
    (hreads : path.Reads p.scope key) (h : Held events key o) :
    (∃ below, At events connection below o) ∨ o.detail.IsLeaf := by
  cases hreads with
  | @listed kind hopens =>
    by_cases hkind : kind = .groupDimensions
    · obtain ⟨below, ho, -⟩ := hp.dimensions hopens (Or.inr hkind) h
      exact Or.inl ⟨below, ho⟩
    · obtain ⟨row, hbuilt⟩ := h.built hkind
      exact hp.of_built hopens hkind hbuilt
  | derived hopens hkind =>
    obtain ⟨d, hd, ho⟩ := h.derived
    obtain ⟨below, hbelow, hlists, -⟩ := hp.dimensions hopens hkind hd
    obtain ⟨row, hbuilt⟩ := ho.built (by simp)
    exact hbelow.of_built hlists (by simp) hbuilt

/-! ## Reachable objects -/

/-- The objects that reading one collection after the other leads to. -/
inductive Reachable (events : List (Event TreeKey)) (connection : Connection) :
    MetadataObject → Prop
  | root {name : String} {key : TreeKey} {o : MetadataObject}
      (hkey : connection.collection? name = some key) (h : Held events key o) :
      Reachable events connection o
  | step {name : String} {key : TreeKey} {p o : MetadataObject}
      (hp : Reachable events connection p) (hkey : p.collection? name = some key)
      (h : Held events key o) : Reachable events connection o

theorem Detail.IsLeaf.collection?_eq_none (h : o.detail.IsLeaf) (name : String) :
    o.collection? name = none := by
  unfold MetadataObject.collection?
  generalize o.detail = detail at h ⊢
  cases h <;> rfl

/-- Whatever can be reached has a path, or nothing can be reached from there. -/
theorem Reachable.at (h : Reachable events connection o) :
    (∃ path, At events connection path o) ∨ o.detail.IsLeaf := by
  induction h with
  | root hkey h =>
    unfold Connection.collection? at hkey
    split at hkey <;> cases hkey <;> obtain ⟨row, hbuilt⟩ := h.built (by simp) <;>
      obtain ⟨detail, inner, hx, hreads⟩ := hbuilt.reads <;> cases hreads
    · exact Or.inl ⟨_, .catalog hbuilt hx⟩
    · exact Or.inr (hx ▸ .dataSource _)
    · exact Or.inr (hx ▸ .literal _)
  | step _ hkey h ih =>
    rcases ih with ⟨path, hp⟩ | hleaf
    · exact hp.step (hp.reads hkey) h
    · rw [hleaf.collection?_eq_none] at hkey
      cases hkey

/-- An object that is reachable and no leaf stands at the end of a path of its kind. -/
theorem Reachable.endsIn {detail : Detail} (h : Reachable events connection o)
    (hx : o.detail = detail) (hleaf : ¬ detail.IsLeaf) :
    ∃ path, At events connection path o ∧ path.EndsIn detail := by
  rcases h.at with ⟨path, ho⟩ | hleaf'
  · exact ⟨path, ho, hx ▸ ho.endsIn⟩
  · exact absurd (hx ▸ hleaf') hleaf

theorem Reachable.of_built {kind : CollectionKind} {row : Element}
    (hp : At events connection path p) (hreach : Reachable events connection p)
    (hopens : path.Opens kind) (h : Collection.Built events ⟨p.scope, kind⟩ row o) :
    Reachable events connection o := by
  obtain ⟨name, hkey⟩ := hp.opens hopens
  exact .step hreach hkey h.held

/-- What is found along a path can be reached. -/
theorem At.reachable (h : At events connection path o) : Reachable events connection o := by
  induction h with
  | catalog h => exact @Reachable.root _ _ "catalogs" _ _ rfl h.held
  | schema hp h _ ih => exact .of_built hp ih .schemas h
  | cube hp h _ ih => exact .of_built hp ih .cubes h
  | measureGroup hp h _ ih => exact .of_built hp ih .measureGroups h
  | dimension hp h _ ih => exact .of_built hp ih .dimensions h
  | sharedDimension hp h _ ih => exact .of_built hp ih .sharedDimensions h
  | hierarchy hp h _ ih => exact .of_built hp ih .hierarchies h
  | level hp h _ ih => exact .of_built hp ih .levels h

end CubeClient
