import CubeClient.Proofs.Metadata.Growth

/-!
# Requests carry the names of the path

Whatever is asked about an object is asked with the names of its path, in the order of the path, and
in the catalog that the path starts from (`requests_follow_path`). Neither the rows of the answers
nor the catalog of the session can change that. Dimensions that the cubes of a schema share are
listed under no cube; if a row names one for them, it becomes part of their path.
-/

namespace CubeClient

open CubeClient.Deferred CubeClient.Xml

/-- A Discover request in a catalog, restricted to some names. -/
def Client.pathMessage (client : Client) (request : RequestType) (catalog : String)
    (names : List (String × String)) : Message :=
  ⟨.discover, Envelope.discoverRequest request ⟨names⟩
    (Properties.discover (some catalog) client.session.dataSourceInfo)⟩

/-- The requests of an object carry the names of its path. -/
structure Scoped (events : List (Event TreeKey)) (connection : Connection) (path : TreePath)
    (o : MetadataObject) : Prop where
  /-- What is sent to fill a collection of the object. -/
  own : ∀ {name : String} {key : TreeKey}, o.collection? name = some key →
    key ≠ .listed ⟨o.scope, .sharedDimensions⟩ →
    ∀ s ∈ (Config.run TreeKey.family events).sent,
    (Config.run TreeKey.family events).attempts[s.attempt]? = some key →
    ∃ kind, key = .listed ⟨o.scope, kind⟩ ∧
      s.message = connection.client.pathMessage kind.request path.top path.names
  /-- What is sent to fill other collections meanwhile: they are of objects of the same cube, and
  their requests carry the names of these. -/
  meanwhile : ∀ {name : String} {key : TreeKey}, o.collection? name = some key →
    key ≠ .listed ⟨o.scope, .sharedDimensions⟩ →
    ∀ {i : Nat} {r : Reader TreeKey MetadataObject},
    (Config.run TreeKey.family events).readers[i]? = some r → key ∈ r.within →
    ∀ s ∈ (Config.run TreeKey.family events).sent, r.phase.own? = some s.attempt →
    ∃ other p kind, At events connection other p ∧ other.base = path.base ∧
      r.key = .listed ⟨p.scope, kind⟩ ∧
      s.message = connection.client.pathMessage kind.request other.top other.names
  /-- What is sent for the members of a level. -/
  members : ∀ {level : Level} {message : Message}, o.detail = .level level →
    (o.scope.levelMembers level).message? = some message →
    message = connection.client.pathMessage .members path.top path.names
  /-- What is sent to look a member up. -/
  lookup : ∀ {uniqueName : String} {message : Message},
    (o.scope.lookupMember uniqueName).message? = some message →
    message = connection.client.pathMessage .members path.top
      (path.base ++ [("MEMBER_UNIQUE_NAME", uniqueName)])
  /-- The default member and the parent of a member are looked up by their names. -/
  default : ∀ {hierarchy : Hierarchy} {call : Call (Option Member)},
    o.scope.defaultMember? hierarchy = some call →
    ∃ uniqueName, hierarchy.defaultMember = some uniqueName ∧
      call = o.scope.lookupMember uniqueName
  parent : ∀ {member : Member} {call : Call (Option Member)},
    o.scope.parentMember? member = some call →
    ∃ uniqueName, member.parent = some uniqueName ∧ call = o.scope.lookupMember uniqueName

namespace TreePath

theorem catalog_context (path : TreePath) : path.context.catalog = some path.top := by
  cases path with
  | dimension home _ => cases home <;> rfl
  | hierarchy home _ _ => cases home <;> rfl
  | level home _ _ _ => cases home <;> rfl
  | _ => rfl

theorem restrictions_context (path : TreePath) : path.context.restrictions = ⟨path.base⟩ := by
  have hhome : ∀ home : Home, home.context.restrictions = ⟨home.names⟩ := by
    rintro (_ | ⟨_, _, _ | _⟩) <;> rfl
  cases path with
  | dimension home _ => exact hhome home
  | hierarchy home _ _ => exact hhome home
  | level home _ _ _ => exact hhome home
  | _ => rfl

end TreePath

/-- If a Discover request is sent at all, it is the one of its restrictions. -/
theorem Client.eq_of_message?_discover {client : Client} {request : RequestType}
    {catalog : Option String} {restrictions : Restrictions} {message : Message}
    (h : (client.discover request catalog restrictions).message? = some message) :
    message = client.discoverMessage request catalog restrictions := by
  unfold discover at h
  split at h
  · cases h
  · exact (Option.some.inj h).symm

theorem Call.message?_andThen {α β : Type} (call : Call α) (f : α → Except ClientError β) :
    (call.andThen f).message? = call.message? := by
  cases call <;> rfl

namespace At

variable {events : List (Event TreeKey)} {connection : Connection} {path : TreePath}
  {o : MetadataObject}

/-- The collections along a path ask by the names of the path. -/
theorem message_eq {kind : CollectionKind} (h : At events connection path o)
    (hopens : path.Opens kind) (hkind : kind ≠ .sharedDimensions) :
    (⟨o.scope, kind⟩ : Collection).message =
      connection.client.pathMessage kind.request path.top path.names := by
  rw [Collection.message, h.query hopens, if_neg hkind, List.append_nil, h.placed.client,
    h.placed.context, path.catalog_context]
  rfl

/-- Members are asked for by the names of the path and one more. -/
theorem discoverMembers_eq {key value : String} {message : Message}
    (h : At events connection path o)
    (hmessage : (o.scope.discoverMembers key value).message? = some message) :
    message = connection.client.pathMessage .members path.top (path.base ++ [(key, value)]) := by
  have heq := Client.eq_of_message?_discover hmessage
  rw [h.placed.client, h.placed.context, path.catalog_context, path.restrictions_context] at heq
  exact heq

/-- What is read to fill a collection of an object is a collection of an object of the same cube. -/
theorem reads_closed {base : List (String × String)} {key other : TreeKey}
    (hreads : (TreeKey.terms events).reads key other)
    (h : ∃ path p, At events connection path p ∧ path.base = base ∧ path.Reads p.scope key ∧
      key ≠ .listed ⟨p.scope, .sharedDimensions⟩) :
    ∃ path p, At events connection path p ∧ path.base = base ∧ path.Reads p.scope other ∧
      other ≠ .listed ⟨p.scope, .sharedDimensions⟩ := by
  obtain ⟨path, p, hp, rfl, hkey, -⟩ := h
  cases hkey with
  | listed hopens =>
    obtain ⟨rfl, rfl⟩ := hreads
    cases hopens with
    | groupDimensions =>
      obtain ⟨q, hq, hscope⟩ := hp.cubeOfGroup
      rw [Collection.cubeDimensions, hscope]
      exact ⟨_, q, hq, rfl, .listed .dimensions, by simp⟩
  | derived hopens hkind =>
    rcases hreads with rfl | ⟨d, hd, rfl⟩
    · refine ⟨path, p, hp, rfl, .listed hopens, ?_⟩
      rcases hkind with rfl | rfl <;> simp
    · obtain ⟨below, hbelow, hlists, hbase⟩ := hp.dimensions hopens hkind hd
      exact ⟨below, d, hbelow, hbase, .listed hlists, by simp⟩

/-- Whatever is sent for a collection along a path is the path's request. -/
theorem sent_eq {key : TreeKey} {s : Sent} (h : At events connection path o)
    (hreads : path.Reads o.scope key) (hkey : key ≠ .listed ⟨o.scope, .sharedDimensions⟩)
    (hs : s ∈ (Config.run TreeKey.family events).sent)
    (ha : (Config.run TreeKey.family events).attempts[s.attempt]? = some key) :
    ∃ kind, key = .listed ⟨o.scope, kind⟩ ∧
      s.message = connection.client.pathMessage kind.request path.top path.names := by
  obtain ⟨c, rfl, -, hmessage⟩ := TreeKey.sent_cases hs ha
  cases hreads with
  | @listed kind hopens =>
    refine ⟨kind, rfl, hmessage.trans (h.message_eq hopens ?_)⟩
    rintro rfl
    exact hkey rfl

end At

theorem At.scoped {events : List (Event TreeKey)} {connection : Connection} {path : TreePath}
    {o : MetadataObject} (h : At events connection path o) : Scoped events connection path o where
  own hkey hshared s hs ha := h.sent_eq (h.reads hkey) hshared hs ha
  meanwhile {name key} hkey hshared i r hr hwithin s hs hown := by
    obtain ⟨other, p, hp, hbase, hreads, hne⟩ := (TreeKey.kept events).of_within
      (fun _ _ hreads => At.reads_closed hreads) hr hwithin
      ⟨path, o, h, rfl, h.reads hkey, hshared⟩
    have hattempt := (Config.Coherent.run TreeKey.family events).guarded.runner.mpr
      ⟨i, r, hr, rfl, hown⟩
    obtain ⟨kind, hkind, hmessage⟩ := hp.sent_eq hreads hne hs hattempt
    exact ⟨other, p, kind, hp, hbase, hkind, hmessage⟩
  members {level message} hx hmessage := by
    have hends := h.endsIn
    rw [hx] at hends
    rw [Scope.levelMembers, Call.message?_andThen] at hmessage
    cases hends
    exact h.discoverMembers_eq hmessage
  lookup {uniqueName message} hmessage := by
    rw [Scope.lookupMember, Call.message?_andThen] at hmessage
    exact h.discoverMembers_eq hmessage
  default hcall := by
    obtain ⟨uniqueName, hname, rfl⟩ := Option.map_eq_some_iff.mp hcall
    exact ⟨uniqueName, hname, rfl⟩
  parent hcall := by
    obtain ⟨uniqueName, hname, rfl⟩ := Option.map_eq_some_iff.mp hcall
    exact ⟨uniqueName, hname, rfl⟩

/-- For every connection, whatever the catalog of its session, and for all replies: what can be
reached has a path, or nothing to ask about; and whatever is asked about what is found along a path,
and whatever is asked meanwhile to fill its collections, carries exactly the names of the path, in
the order of the path, and asks in the catalog of the path. -/
theorem requests_follow_path (events : List (Event TreeKey)) (connection : Connection) :
    (∀ o, Reachable events connection o →
      (∃ path, At events connection path o) ∨ o.detail.IsLeaf) ∧
    ∀ path o, At events connection path o → Scoped events connection path o :=
  ⟨fun _ h => h.at, fun _ _ h => h.scoped⟩

/-- The cubes of the small tree are asked for in the catalog that is listed, and not in that of the
session or that of the schema's row. -/
theorem requests_follow_path_cubes :
    At schemaReads foodMart (.schema "FoodMart" "Public") foodMartSchema ∧
    ∃ s ∈ (Config.run TreeKey.family (schemaReads ++
        [.start (.listed ⟨foodMartSchema.scope, .cubes⟩), .advance 2, .advance 2])).sent,
      s.message = foodMart.client.pathMessage .cubes "FoodMart"
        [("CATALOG_NAME", "FoodMart"), ("SCHEMA_NAME", "Public")] := by
  obtain ⟨hcalm, hcells, hfound⟩ := schemaReads_calm
  generalize hlater : [Event.start (TreeKey.listed ⟨foodMartSchema.scope, .cubes⟩), .advance 2,
    .advance 2] = later
  have hprogram : TreeKey.family.program (.listed ⟨foodMartSchema.scope, .cubes⟩) =
      populate _ _ (foodMartSchema.scope.client.discover .cubes (some "FoodMart")
        ⟨[("CATALOG_NAME", "FoodMart"), ("SCHEMA_NAME", "Public")]⟩) := rfl
  rw [Client.discover_of_valid rfl] at hprogram
  have hrun := hcalm.foldl_send (hcells _ (by simp) (by simp)) hprogram
  rw [hlater, ← Config.run_append] at hrun
  have hkey : foodMartSchema.collection? "cubes" =
    some (.listed ⟨foodMartSchema.scope, .cubes⟩) := rfl
  have hsent := ((requests_follow_path _ foodMart).2 _ _ (hfound.append later)).own hkey (by simp)
  rw [hrun] at hsent ⊢
  refine ⟨hfound, _, List.mem_append_right _ (List.mem_singleton.mpr rfl), ?_⟩
  obtain ⟨kind, hkind, hmessage⟩ := hsent _ (List.mem_append_right _ (List.mem_singleton.mpr rfl))
    List.getElem?_concat_length
  cases hkind
  exact hmessage

end CubeClient
