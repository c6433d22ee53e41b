import CubeClient.Proofs.Metadata.Scoping

/-!
# Requests agree with the catalogue

The catalogue of requests says which restrictions a request needs and which it takes; the requests
of the tree are restricted to the names of their paths. The two agree (`requests_agree`), so no read
fails for restrictions, with one exception. A dimension that the cubes of a schema share is listed
under no cube, and its hierarchies have neither levels nor default members to ask for unless a row
names one (`Cubeless`).
-/

namespace CubeClient

open CubeClient.Deferred CubeClient.Xml

namespace ClientError

/-- A request was refused for its restrictions. -/
def isRestriction : ClientError → Bool
  | .unsupportedRestriction _ _ | .missingRestriction _ _ => true
  | _ => false

/-- What is wrong with a row is no matter of restrictions. -/
theorem not_isRestriction {e : ClientError} (h : RowFault e) : ¬ e.isRestriction = true := by
  cases e <;> first | exact Bool.false_ne_true | cases h

end ClientError

/-! ## Replies -/

/-- No response fails for restrictions. -/
theorem Envelope.readResponse_fails (envelope : Element) :
    FailsAs (fun e => e.isRestriction = false) (readResponse envelope) := by
  unfold readResponse
  split
  · exact .error rfl
  · split
    · exact .error rfl
    · split
      · exact .error rfl
      · split
        · exact .error rfl
        · split
          · rename_i root _ error hexception
            obtain ⟨_, -, rfl⟩ := Option.map_eq_some_iff.mp hexception
            exact .error rfl
          · exact .ok _

/-- No response of a server is an error about restrictions; only a transport could make one up. -/
theorem Client.eq_of_readPayload {reply : Reply} {e : ClientError}
    (h : readPayload reply = .error e) (he : e.isRestriction = true) : reply = .error e := by
  cases reply with
  | error e' =>
    cases h
    rfl
  | ok bytes =>
    have hfails : FailsAs (fun e => e.isRestriction = false) (Envelope.parseResponse bytes) := by
      unfold Envelope.parseResponse
      split
      · exact .error rfl
      · exact Envelope.readResponse_fails _
    rw [hfails e h] at he
    cases he

/-! ## Calls -/

/-- A call that is sent, and that fails for restrictions only if the transport says so. -/
def Call.Allowed {α : Type} (call : Call α) : Prop :=
  ∃ message read, call = .message message read ∧
    ∀ reply e, read reply = .error e → e.isRestriction = true → reply = .error e

namespace Call.Allowed

variable {α β : Type}

theorem andThen {call : Call α} {f : α → Except ClientError β} (h : call.Allowed)
    (hf : ∀ x, FailsAs FieldFault (f x)) : (call.andThen f).Allowed := by
  obtain ⟨message, read, rfl, hread⟩ := h
  refine ⟨message, _, rfl, fun reply e herror he => ?_⟩
  cases hx : read reply with
  | error e' =>
    rw [hx] at herror
    cases herror
    exact hread reply e hx he
  | ok x =>
    rw [hx] at herror
    exact absurd he (ClientError.not_isRestriction (hf x e herror).rowFault)

/-- A Discover request with valid restrictions is sent. -/
theorem discover {client : Client} {request : RequestType} {catalog : Option String}
    {restrictions : Restrictions} (h : request.validate restrictions = .ok ()) :
    (client.discover request catalog restrictions).Allowed := by
  refine ⟨_, _, Client.discover_of_valid h client catalog, fun reply e herror he => ?_⟩
  cases hx : Client.readPayload reply with
  | error e' =>
    rw [hx] at herror
    cases herror
    exact Client.eq_of_readPayload hx he
  | ok root =>
    rw [hx] at herror
    cases herror

end Call.Allowed

theorem Client.functions_allowed (client : Client) : client.functions.Allowed :=
  .andThen (.discover (by decide)) fun rows => .mapM (fun row => QueryFunction.ofRow_fails row) rows

/-! ## The catalogue's verdict on a path -/

/-- The cube that a dimension belongs to, or that a row has named for it. -/
def Home.cube? : Home → Option String
  | .cube _ _ q => some q
  | .schema _ _ named => named

/-- The home of a hierarchy. -/
def TreePath.home? : TreePath → Option Home
  | .hierarchy home _ _ => some home
  | _ => none

namespace At

variable {events : List (Event TreeKey)} {connection : Connection} {path : TreePath}
  {o : MetadataObject}

/-- The collections along a path are asked for with restrictions that the catalogue allows, where a
cube is known if there can be one. -/
theorem check_eq_ok {kind : CollectionKind} (h : At events connection path o)
    (hopens : path.Opens kind) (hcube : ∀ home, path.home? = some home → home.cube? ≠ none) :
    (⟨o.scope, kind⟩ : Collection).check = .ok () := by
  rw [Collection.check, h.query hopens]
  cases hopens with
  | hierarchies => rename_i home _; rcases home with _ | ⟨_, _, _ | _⟩ <;> rfl
  | levels =>
    rename_i home _ _
    rcases home with _ | ⟨_, _, _ | _⟩
    · rfl
    · exact absurd rfl (hcube _ rfl)
    · rfl
  | _ => rfl

/-- Levels of a hierarchy without a cube lack the name of the cube. -/
theorem check_eq_error {c s d h : String}
    (ho : At events connection (.hierarchy (.schema c s none) d h) o) :
    (⟨o.scope, .levels⟩ : Collection).check =
      .error (.missingRestriction "MDSCHEMA_LEVELS" "CUBE_NAME") := by
  rw [Collection.check, ho.query .levels]
  rfl

/-- Members may be asked for by level or by unique name, where there is a cube. -/
theorem validate_members {key value : String} (home : Home) (hcube : home.cube? ≠ none)
    (hkey : key = "LEVEL_UNIQUE_NAME" ∨ key = "MEMBER_UNIQUE_NAME") :
    RequestType.members.validate ⟨home.names ++ [(key, value)]⟩ = .ok () := by
  rcases home with _ | ⟨_, _, _ | _⟩
  · rcases hkey with rfl | rfl <;> rfl
  · exact absurd rfl hcube
  · rcases hkey with rfl | rfl <;> rfl

theorem discoverMembers_allowed {key value : String} {home : Home}
    (h : At events connection path o) (hbase : path.base = home.names) (hcube : home.cube? ≠ none)
    (hkey : key = "LEVEL_UNIQUE_NAME" ∨ key = "MEMBER_UNIQUE_NAME") :
    (o.scope.discoverMembers key value).Allowed := by
  refine .discover ?_
  rw [h.placed.context, path.restrictions_context, hbase]
  exact validate_members home hcube hkey

theorem lookupMember_allowed {home : Home} (h : At events connection path o)
    (hbase : path.base = home.names) (hcube : home.cube? ≠ none) (uniqueName : String) :
    (o.scope.lookupMember uniqueName).Allowed := by
  refine .andThen (h.discoverMembers_allowed hbase hcube (Or.inr rfl)) fun rows => ?_
  cases rows with
  | nil => exact .ok none
  | cons row rows => exact .map (Member.ofRow_fails row o.scope.context) some

/-- Without a cube, the lookup of a member is refused. -/
theorem lookupMember_refused {c s d h uniqueName : String}
    (ho : At events connection (.hierarchy (.schema c s none) d h) o) :
    o.scope.lookupMember uniqueName =
      .refused (.missingRestriction "MDSCHEMA_MEMBERS" "CUBE_NAME") := by
  unfold Scope.lookupMember Scope.discoverMembers
  rw [ho.placed.context, TreePath.restrictions_context]
  rfl

/-- A level is listed only where its hierarchy has a cube. -/
theorem cube?_of_level {home : Home} {d h l : String}
    (ho : At events connection (.level home d h l) o) : home.cube? ≠ none := by
  cases ho with
  | level hp hbuilt _ =>
    rcases home with _ | ⟨c, s, _ | q⟩
    · exact Option.some_ne_none _
    · have hcheck := hbuilt.held.listed.1
      rw [hp.check_eq_error] at hcheck
      cases hcheck
    · exact Option.some_ne_none _

theorem levelMembers_allowed {home : Home} {d h l : String}
    (ho : At events connection (.level home d h l) o) (level : Level) :
    (o.scope.levelMembers level).Allowed :=
  .andThen (ho.discoverMembers_allowed rfl ho.cube?_of_level (Or.inl rfl)) fun rows =>
    .mapM (fun row => Member.ofRow_fails row o.scope.context) rows

end At

/-! ## Hierarchies without a cube -/

/-- A hierarchy of a shared dimension for which neither the dimension's row nor its own has named a
cube. -/
inductive Cubeless (events : List (Event TreeKey)) (connection : Connection) (o : MetadataObject) :
    Prop
  | mk {catalog schema : String} {p d : MetadataObject} {row below : Element}
      (hp : At events connection (.schema catalog schema) p)
      (hd : Collection.Built events ⟨p.scope, .sharedDimensions⟩ row d)
      (hrow : Field.nonempty? row "CUBE_NAME" = none)
      (ho : Collection.Built events ⟨d.scope, .hierarchies⟩ below o)
      (hbelow : Field.nonempty? below "CUBE_NAME" = none)

variable {events : List (Event TreeKey)} {connection : Connection} {path : TreePath}
  {o : MetadataObject}

/-- A hierarchy without a cube stands below a dimension that a schema shares. -/
theorem Cubeless.at (h : Cubeless events connection o) :
    ∃ catalog schema dimension hierarchy,
      At events connection (.hierarchy (.schema catalog schema none) dimension hierarchy) o := by
  cases h with
  | @mk catalog schema p d row below hp hd hrow ho hbelow =>
    obtain ⟨detail, inner, hx, hreads⟩ := hd.reads
    cases hreads with
    | sharedDimension x =>
      obtain ⟨detail, inner, hy, hreads⟩ := ho.reads
      cases hreads with
      | hierarchy y =>
        have hat := At.hierarchy (.sharedDimension hp hd hx) ho hy
        rw [Home.note, hrow, hbelow] at hat
        exact ⟨catalog, schema, x.uniqueName, y.uniqueName, hat⟩

/-- A hierarchy whose home names no cube is such a one. -/
theorem At.cubeless {home : Home} {dimension hierarchy : String}
    (h : At events connection (.hierarchy home dimension hierarchy) o) (hcube : home.cube? = none) :
    Cubeless events connection o := by
  cases h with
  | @hierarchy home _ below _ _ _ hp ho hx =>
    rcases home with _ | ⟨c, s, named⟩
    · cases hcube
    · obtain ⟨rfl, hbelow⟩ := Option.or_eq_none_iff.mp hcube
      generalize hnamed : (none : Option String) = named at hp
      cases hp with
      | sharedDimension hschema hd _ => exact .mk hschema hd hnamed.symm ho hbelow

/-! ## Reads -/

/-- All collections along paths pass the check but the levels of a hierarchy without a cube. -/
theorem At.check_cases {kind : CollectionKind} (h : At events connection path o)
    (hopens : path.Opens kind) :
    (⟨o.scope, kind⟩ : Collection).check = .ok () ∨
      Cubeless events connection o ∧ kind = .levels := by
  by_cases hcube : ∀ home, path.home? = some home → home.cube? ≠ none
  · exact Or.inl (h.check_eq_ok hopens hcube)
  · obtain ⟨home, hhome, hcube⟩ : ∃ home, path.home? = some home ∧ home.cube? = none := by
      simpa using hcube
    cases hopens with
    | levels =>
      obtain rfl := Option.some.inj hhome
      exact Or.inr ⟨h.cubeless hcube, rfl⟩
    | _ => cases hhome

theorem Cubeless.check_eq_error (h : Cubeless events connection o) :
    (⟨o.scope, .levels⟩ : Collection).check =
      .error (.missingRestriction "MDSCHEMA_LEVELS" "CUBE_NAME") := by
  obtain ⟨_, _, _, _, ho⟩ := h.at
  exact ho.check_eq_error

/-- Reading these levels ends at once and sends nothing. -/
theorem Cubeless.program_eq (h : Cubeless events connection o) :
    TreeKey.family.program (.listed ⟨o.scope, .levels⟩) =
      .done (.error (.missingRestriction "MDSCHEMA_LEVELS" "CUBE_NAME")) := by
  have hrefused : (⟨o.scope, .levels⟩ : Collection).call =
      .refused (.missingRestriction "MDSCHEMA_LEVELS" "CUBE_NAME") := by
    have hcheck := h.check_eq_error
    unfold Collection.check at hcheck
    rw [Collection.call, Client.discover, hcheck]
  show Collection.program _ = _
  rw [Collection.program, hrefused]
  rfl

/-- An error about restrictions was brought by the transport, or there is no cube to name. -/
theorem At.restriction_of_faults {key : TreeKey} {e : ClientError}
    (hp : At events connection path o) (hreads : path.Reads o.scope key)
    (hfaults : key.Faults events e) (he : e.isRestriction = true) :
    Delivered events (.error e) ∨ (Cubeless events connection o ∧
      key = .listed ⟨o.scope, .levels⟩ ∧
      e = .missingRestriction "MDSCHEMA_LEVELS" "CUBE_NAME") := by
  induction hfaults generalizing path o with
  | refused hcheck =>
    cases hreads with
    | listed hopens =>
      rcases hp.check_cases hopens with hok | ⟨hcubeless, rfl⟩
      · rw [hok] at hcheck
        cases hcheck
      · rw [hcubeless.check_eq_error] at hcheck
        cases hcheck
        exact Or.inr ⟨hcubeless, rfl, rfl⟩
  | reply _ hreply h =>
    obtain rfl := Client.eq_of_readPayload h he
    exact Or.inl hreply
  | rows _ h => exact absurd he (ClientError.not_isRestriction h)
  | joined h => exact absurd he (ClientError.not_isRestriction h)
  | cube _ hkind _ ih =>
    cases hreads with
    | listed hopens =>
      cases hkind
      cases hopens with
      | groupDimensions =>
        obtain ⟨q, hq, hscope⟩ := hp.cubeOfGroup
        rcases ih hq (by rw [Collection.cubeDimensions, hscope]; exact .listed .dimensions) he with
          hreply | ⟨-, hkey, -⟩
        · exact Or.inl hreply
        · have hlevels := congrArg (·.collection.kind) hkey
          cases hlevels
  | dimensions _ ih =>
    cases hreads with
    | derived hopens hkind =>
      rcases ih hp (.listed hopens) he with hreply | ⟨-, hkey, -⟩
      · exact Or.inl hreply
      · rcases hkind with rfl | rfl <;> cases hkey
  | hierarchies hd _ ih =>
    cases hreads with
    | derived hopens hkind =>
      obtain ⟨below, hbelow, hlists, -⟩ := hp.dimensions hopens hkind hd
      rcases ih hbelow (.listed hlists) he with hreply | ⟨-, hkey, -⟩
      · exact Or.inl hreply
      · cases hkey

/-- What a read of a collection has answered. -/
def Answers (events : List (Event TreeKey)) (key : TreeKey) (result : ReadResult MetadataObject) :
    Prop :=
  ∃ (i : Nat) (r : Reader TreeKey MetadataObject) (own : Option Nat),
    (Config.run TreeKey.family events).readers[i]? = some r ∧ r.key = key ∧
      r.phase = .finished own result

theorem Answers.faults {key : TreeKey} {e : ClientError} (h : Answers events key (.error e)) :
    key.Faults events e := by
  obtain ⟨i, r, own, hr, rfl, hp⟩ := h
  exact TreeKey.faults_of_finished hr hp

theorem Answers.check {c : Collection} {listing : Listing MetadataObject}
    (h : Answers events (.listed c) (.ok listing)) : c.check = .ok () := by
  obtain ⟨i, r, own, hr, hkey, hp⟩ := h
  have hstate := ((Config.Answered.run TreeKey.family events).listed hr hp).1
  rw [hkey] at hstate
  exact ((TreeKey.kept events).cell hstate).1

/-- Collections of the connection need no restrictions. -/
theorem restriction_of_root {c : Collection} {e : ClientError} (hcheck : c.check = .ok ())
    (hkind : c.kind ≠ .groupDimensions) (hfaults : TreeKey.Faults events (.listed c) e)
    (he : e.isRestriction = true) : Delivered events (.error e) := by
  cases hfaults with
  | refused h =>
    rw [hcheck] at h
    cases h
  | reply _ hreply h =>
    obtain rfl := Client.eq_of_readPayload h he
    exact hreply
  | rows _ h => exact absurd he (ClientError.not_isRestriction h)
  | cube _ hgroup => exact absurd hgroup hkind

/-- The requests of a connection agree with the catalogue. A transport may bring an error of any
kind in place of a response; such an error is answered as it is. -/
structure Agrees (events : List (Event TreeKey)) (connection : Connection) : Prop where
  /-- The collections of the connection. -/
  roots : ∀ {name : String} {key : TreeKey} {e : ClientError},
    connection.collection? name = some key → Answers events key (.error e) →
    e.isRestriction = true → Delivered events (.error e)
  functions : connection.client.functions.Allowed
  /-- The collections of the objects. -/
  objects : ∀ {o : MetadataObject} {name : String} {key : TreeKey} {e : ClientError},
    Reachable events connection o → o.collection? name = some key →
    Answers events key (.error e) → e.isRestriction = true →
    Delivered events (.error e) ∨ (Cubeless events connection o ∧
      key = .listed ⟨o.scope, .levels⟩ ∧ e = .missingRestriction "MDSCHEMA_LEVELS" "CUBE_NAME")
  /-- The members of the levels, and the members of a cube that are looked up. -/
  members : ∀ {o : MetadataObject} {level : Level}, Reachable events connection o →
    o.detail = .level level → (o.scope.levelMembers level).Allowed
  lookup : ∀ {o : MetadataObject} {cube : Cube}, Reachable events connection o →
    o.detail = .cube cube → ∀ uniqueName, (o.scope.lookupMember uniqueName).Allowed
  /-- The default members, where there is a cube. -/
  default : ∀ {o : MetadataObject} {hierarchy : Hierarchy} {call : Call (Option Member)},
    Reachable events connection o → o.detail = .hierarchy hierarchy →
    o.scope.defaultMember? hierarchy = some call → ¬ Cubeless events connection o → call.Allowed
  /-- Without a cube, the levels are filled by nothing but the error about what is missing. So this
  is what their reads answer, and nothing is sent. -/
  fails : ∀ {o : MetadataObject}, Cubeless events connection o →
    TreeKey.family.program (.listed ⟨o.scope, .levels⟩) =
      .done (.error (.missingRestriction "MDSCHEMA_LEVELS" "CUBE_NAME"))
  levels : ∀ {o : MetadataObject} {result : ReadResult MetadataObject},
    Cubeless events connection o → Answers events (.listed ⟨o.scope, .levels⟩) result →
    result = .error (.missingRestriction "MDSCHEMA_LEVELS" "CUBE_NAME")
  unsent : ∀ {o : MetadataObject}, Cubeless events connection o →
    ∀ s ∈ (Config.run TreeKey.family events).sent,
    (Config.run TreeKey.family events).attempts[s.attempt]? ≠ some (.listed ⟨o.scope, .levels⟩)
  /-- Nor is anything sent for the default member. -/
  undefined : ∀ {o : MetadataObject} {hierarchy : Hierarchy} {call : Call (Option Member)},
    Cubeless events connection o → o.scope.defaultMember? hierarchy = some call →
    call = .refused (.missingRestriction "MDSCHEMA_MEMBERS" "CUBE_NAME")

/-- For every connection and for all replies, whatever can be reached is read without an error about
restrictions; except that levels and default member of a hierarchy without a cube are refused
because the name of the cube is missing. -/
theorem requests_agree (events : List (Event TreeKey)) (connection : Connection) :
    Agrees events connection where
  roots {name key e} hkey hanswer he := by
    have hfaults := hanswer.faults
    unfold Connection.collection? at hkey
    split at hkey <;> cases hkey
    · exact restriction_of_root rfl (by simp) hfaults he
    · exact restriction_of_root rfl (by simp) hfaults he
    · exact restriction_of_root rfl (by simp) hfaults he
  functions := connection.client.functions_allowed
  objects {o name key e} hreach hkey hanswer he := by
    rcases hreach.at with ⟨path, ho⟩ | hleaf
    · exact ho.restriction_of_faults (ho.reads hkey) hanswer.faults he
    · rw [hleaf.collection?_eq_none] at hkey
      cases hkey
  members {o level} hreach hx := by
    obtain ⟨path, ho, hends⟩ := hreach.endsIn hx nofun
    cases hends
    exact ho.levelMembers_allowed level
  lookup {o cube} hreach hx uniqueName := by
    obtain ⟨path, ho, hends⟩ := hreach.endsIn hx nofun
    cases hends with
    | @cube catalog schema =>
      have hcube : (Home.cube catalog schema cube.name).cube? ≠ none := Option.some_ne_none _
      exact ho.lookupMember_allowed rfl hcube uniqueName
  default {o hierarchy call} hreach hx hcall hcube := by
    obtain ⟨path, ho, hends⟩ := hreach.endsIn hx nofun
    obtain ⟨uniqueName, -, rfl⟩ := Option.map_eq_some_iff.mp hcall
    cases hends
    exact ho.lookupMember_allowed rfl (fun hnone => hcube (ho.cubeless hnone)) uniqueName
  fails hcubeless := hcubeless.program_eq
  levels {o result} hcubeless hanswer := by
    cases result with
    | ok listing =>
      have hcheck := hanswer.check
      rw [hcubeless.check_eq_error] at hcheck
      cases hcheck
    | error e =>
      cases hanswer.faults with
      | refused hcheck =>
        rw [hcubeless.check_eq_error] at hcheck
        cases hcheck
        rfl
      | _ =>
        rename Collection.check _ = .ok () => hcheck
        rw [hcubeless.check_eq_error] at hcheck
        cases hcheck
  unsent {o} hcubeless s hs ha := by
    obtain ⟨c, hkey, hcheck, -⟩ := TreeKey.sent_cases hs ha
    cases hkey
    rw [hcubeless.check_eq_error] at hcheck
    cases hcheck
  undefined hcubeless hcall := by
    obtain ⟨uniqueName, -, rfl⟩ := Option.map_eq_some_iff.mp hcall
    obtain ⟨_, _, _, _, ho⟩ := hcubeless.at
    exact ho.lookupMember_refused

/-- A dimension that the cubes of the small tree share. -/
def timeDimension : MetadataObject where
  scope := foodMartSchema.scope.child .sharedDimensions "[Time]"
    { catalog := some "FoodMart", schema := some "Public", dimension := some "[Time]" }
  detail := .dimension
    { name := "Time", uniqueName := "[Time]", caption := "Time", description := none
      type := .unknown, ordinal := none, defaultHierarchy := none }

/-- What the row of a hierarchy says that has a default member. -/
def weekly : Hierarchy where
  name := "Weekly"
  uniqueName := "[Time.Weekly]"
  caption := "Weekly"
  description := none
  allMember := none
  defaultMember := some "[Time.Weekly].[All]"

/-- This hierarchy of the dimension. -/
def weeklyHierarchy : MetadataObject where
  scope := timeDimension.scope.child .hierarchies "[Time.Weekly]"
    { catalog := some "FoodMart", schema := some "Public", dimension := some "[Time]"
      hierarchy := some "[Time.Weekly]" }
  detail := .hierarchy weekly

/-- Dimension and hierarchy are read, neither of which names a cube, and then the levels. -/
def levelReads : List (Event TreeKey) :=
  schemaReads ++
    Config.soloRead 2 (.listed ⟨foodMartSchema.scope, .sharedDimensions⟩)
      (rowReply [("DIMENSION_NAME", "Time"), ("DIMENSION_UNIQUE_NAME", "[Time]")]) ++
    Config.soloRead 3 (.listed ⟨timeDimension.scope, .hierarchies⟩)
      (rowReply [("HIERARCHY_NAME", "Weekly"), ("HIERARCHY_UNIQUE_NAME", "[Time.Weekly]"),
        ("DEFAULT_MEMBER", "[Time.Weekly].[All]")]) ++
    [.start (.listed ⟨weeklyHierarchy.scope, .levels⟩), .advance 4, .advance 4]

/-- The levels of this hierarchy are refused, and so is its default member. -/
theorem requests_agree_levels :
    Cubeless levelReads foodMart weeklyHierarchy ∧
    (∃ result, Answers levelReads (.listed ⟨weeklyHierarchy.scope, .levels⟩) result ∧
      result = .error (.missingRestriction "MDSCHEMA_LEVELS" "CUBE_NAME")) ∧
    weeklyHierarchy.scope.defaultMember? weekly =
      some (.refused (.missingRestriction "MDSCHEMA_MEMBERS" "CUBE_NAME")) := by
  have hplain : Envelope.PlainRows
        [[("DIMENSION_NAME", "Time"), ("DIMENSION_UNIQUE_NAME", "[Time]")]] ∧
      Envelope.PlainRows
        [[("HIERARCHY_NAME", "Weekly"), ("HIERARCHY_UNIQUE_NAME", "[Time.Weekly]"),
          ("DEFAULT_MEMBER", "[Time.Weekly].[All]")]] := by
    unfold Envelope.PlainRows
    decide
  obtain ⟨hcalm, hcells, hschema⟩ := schemaReads_calm
  obtain ⟨hcalm, hcells', hdimension⟩ := hcalm.read_row hplain.1
    (c := ⟨foodMartSchema.scope, .sharedDimensions⟩) (o := timeDimension) rfl (by simp)
    (hcells _ (by simp) (by simp)) rfl
  obtain ⟨hcalm, hcells'', hhierarchy⟩ := hcalm.read_row hplain.2
    (c := ⟨timeDimension.scope, .hierarchies⟩) (o := weeklyHierarchy) rfl (by simp)
    ((hcells' _ (by simp)).trans (hcells _ (by simp) (by simp))) rfl
  have hempty := ((hcells'' (.listed ⟨weeklyHierarchy.scope, .levels⟩) (by simp)).trans
    (hcells' _ (by simp))).trans (hcells _ (by simp) (by simp))
  have hcubeless : Cubeless levelReads foodMart weeklyHierarchy :=
    .mk (((hschema.append _).append _).append _) ((hdimension.append _).append _) rfl
      (hhierarchy.append _) rfl
  have hagrees := requests_agree levelReads foodMart
  have hreader := hcalm.foldl_refused hempty (hagrees.fails hcubeless)
  rw [← Config.run_append] at hreader
  have hanswer : Answers levelReads (.listed ⟨weeklyHierarchy.scope, .levels⟩) _ :=
    ⟨4, _, _, hreader, rfl, rfl⟩
  have hdefault : weeklyHierarchy.scope.defaultMember? weekly =
    some (weeklyHierarchy.scope.lookupMember "[Time.Weekly].[All]") := rfl
  refine ⟨hcubeless, ⟨_, hanswer, hagrees.levels hcubeless hanswer⟩, ?_⟩
  rw [hdefault, hagrees.undefined hcubeless hdefault]

end CubeClient
