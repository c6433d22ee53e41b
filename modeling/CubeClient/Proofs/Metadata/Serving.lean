import CubeClient.Proofs.Deferred.CarriedOut
import CubeClient.Proofs.Metadata.Populations
import CubeClient.Proofs.Metadata.Referring

/-!
# Collections that a server fills

What a server replies is read back as the rows that it has sent, so a collection can be filled with
whatever its rows come to, as soon as the collections that its rows refer to are filled. `Grown`
says which collections a run has filled, and a run that has filled some can go on and fill another
(`Grown.exists_next`). So there are runs for all that is said about measure groups.
-/

namespace CubeClient.Deferred

open CubeClient.Xml

namespace ComesTo

variable {κ ι : Type} [Named ι] {cells : κ → Cell ι} {owned : κ → Bool} {given : List Reply}
  {label : String} {handler : RowHandler κ ι}

theorem fillFrom {answer : RowAnswer ι}
    (hrow : ∀ row list, ComesTo cells owned given (handler row list) (answer row list))
    (rows : List Element) (list : NamedList ι) :
    ComesTo cells owned given (fillFrom label handler rows list)
      (rows.foldlM (addRow label answer) list) := by
  induction rows generalizing list with
  | nil => exact .done
  | cons row rows ih =>
    rw [Deferred.fillFrom, List.foldlM_cons, addRow]
    apply (hrow row list).bind
    rcases answer row list with e | _ | item
    · exact .done
    · exact ih list
    · simp only
      cases list.insert? item with
      | none => exact .done
      | some longer => exact ih longer

theorem populate {message : Message} {decode : Reply → Except ClientError (List Element)}
    {reply : Reply} {rows : List Element} {outcome : Except ClientError (NamedList ι)}
    (hgiven : reply ∈ given) (hdecode : decode reply = .ok rows)
    (h : ComesTo cells owned given (Deferred.fillFrom label handler rows .empty) outcome) :
    ComesTo cells owned given (Deferred.populate label handler (.message message decode))
      outcome := by
  apply ComesTo.send hgiven
  simp only [Program.bind, hdecode]
  exact h

end ComesTo

end CubeClient.Deferred

namespace CubeClient

open CubeClient.Deferred CubeClient.Xml

variable {cells : TreeKey → Cell MetadataObject} {owned : TreeKey → Bool} {given : List Reply}
  {c : Collection} {rows : List (List (String × String))} {events : List (Event TreeKey)}
  {filled : List (TreeKey × NamedList MetadataObject)} {key : TreeKey}
  {dims items : NamedList MetadataObject}

/-! ## What the collections of the tree come to -/

namespace Collection

/-- A listed collection comes to what its rows do. -/
theorem comesTo_listed {outcome : Except ClientError (NamedList MetadataObject)}
    (hcheck : c.check = .ok ()) (hplain : Envelope.PlainRows rows)
    (hgiven : rowsReply rows ∈ given)
    (h : ComesTo cells owned given
      (fillFrom c.label c.handler (rows.map Envelope.rowElement) .empty) outcome) :
    ComesTo cells owned given (TreeKey.family.program (.listed c)) outcome := by
  obtain ⟨root, hread, hrows⟩ := rowsOf_rowsReply hplain
  have hdecode : (Client.readPayload (rowsReply rows)).map (Client.rowsOf c.query.request) =
      .ok (rows.map Envelope.rowElement) := by
    rw [hread, Except.map, hrows]
  rw [program_of_check hcheck]
  exact .populate hgiven hdecode h

/-- The rows of a measure group, if the dimensions of its cube are listed. -/
theorem comesTo_referring {listing : Listing MetadataObject} (hkind : c.kind = .groupDimensions)
    (howned : owned (.listed c.cubeDimensions) = true)
    (hcell : cells (.listed c.cubeDimensions) = ⟨.populated listing, some listing⟩)
    (rows : List Element) :
    ComesTo cells owned given (fillFrom c.label c.handler rows .empty)
      (fill c.label (referringAnswer listing.items) rows) := by
  have hhandler : c.handler = c.resolveDimension := by
    rw [handler, if_pos hkind]
  rw [hhandler]
  refine .fillFrom (fun row list => ?_) rows .empty
  unfold resolveDimension referringAnswer givenName
  cases Field.string row "DIMENSION_UNIQUE_NAME" with
  | error e => exact .done
  | ok name =>
    by_cases htaken : list.containsUnique name = true
    · simp only [Except.map, htaken, if_true]
      exact .done
    · simp only [Except.map, htaken]
      apply ComesTo.owned
      rw [howned]
      exact .read hcell .done

/-- Derived lists come to what joining the lists at hand does. -/
theorem comesTo_derived {dimensions : Listing MetadataObject}
    {lists : List (Listing MetadataObject)}
    (hdims : cells (.listed c) = ⟨.populated dimensions, some dimensions⟩)
    (hlists : List.Forall₂ (fun (d : MetadataObject) list =>
      cells (.listed ⟨d.scope, .hierarchies⟩) = ⟨.populated list, some list⟩)
        dimensions.items.toList lists) :
    ComesTo cells owned given (TreeKey.family.program (.derived c))
      (join c.derivedLabel (lists.map (·.items))) :=
  .read hdims (.readAll (List.forall₂_map_left_iff.mpr hlists) .done)

/-- The rows that are sent arrive, and the attempt ends with what they come to. -/
theorem exists_answered {outcome : Except ClientError (NamedList MetadataObject)}
    (hcheck : c.check = .ok ()) (hplain : Envelope.PlainRows rows)
    (hcell : (Config.run TreeKey.family events).cells (.listed c) = ⟨.empty, none⟩)
    (h : ComesTo (Config.run TreeKey.family events).cells
      (Config.run TreeKey.family events).owned [rowsReply rows]
      (fillFrom c.label c.handler (rows.map Envelope.rowElement) .empty) outcome) :
    ∃ (later : List (Event TreeKey)) (i a q : Nat),
      (Config.run TreeKey.family (events ++ later)).readers[i]? = some ⟨.listed c, [], [],
        .finished (some a) (outcome.map fun items => ⟨a, items⟩)⟩ ∧
      (Config.run TreeKey.family (events ++ later)).sent[q]? = some ⟨a, c.message⟩ ∧
      (Config.run TreeKey.family (events ++ later)).reply? q = some (rowsReply rows) ∧
      ∀ other, other ≠ .listed c → (Config.run TreeKey.family (events ++ later)).cells other =
        (Config.run TreeKey.family events).cells other := by
  have htimely := Config.Timely.run TreeKey.family events
  obtain ⟨d, hd⟩ := Config.exists_carriedOut htimely hcell
    (comesTo_listed hcheck hplain (List.mem_singleton_self _) h)
  obtain ⟨later, hlater⟩ := hd.reached
  have hrun : Config.run TreeKey.family (events ++ later) = d := by
    rw [Config.run_append, hlater]
  obtain ⟨children, last, hleads, -, -⟩ :=
    (Config.Traced.run TreeKey.family (events ++ later)).ended (hrun ▸ hd.answered) rfl
  rw [program_of_check hcheck] at hleads
  obtain ⟨q, reply, hq, hreply, -⟩ := hleads.of_populate
  rw [hrun] at hq hreply
  have hgiven := hd.mem_given htimely (.run TreeKey.family events) hq rfl hreply
  obtain rfl := List.mem_singleton.mp hgiven
  refine ⟨later, (Config.run TreeKey.family events).readers.length,
    (Config.run TreeKey.family events).attempts.length, q, ?_⟩
  rw [hrun]
  exact ⟨hd.answered, hq, hreply, hd.others⟩

end Collection

/-! ## Which collections are filled -/

/-- A run has filled some collections with these lists, and no others. -/
structure Grown (events : List (Event TreeKey))
    (filled : List (TreeKey × NamedList MetadataObject)) : Prop where
  owned : ∀ key, (Config.run TreeKey.family events).owned key = true
  held : ∀ {key : TreeKey} {items : NamedList MetadataObject}, (key, items) ∈ filled →
    ∃ a, (Config.run TreeKey.family events).cells key =
      ⟨.populated ⟨a, items⟩, some ⟨a, items⟩⟩
  unread : ∀ {key : TreeKey}, (∀ items, (key, items) ∉ filled) →
    (Config.run TreeKey.family events).cells key = ⟨.empty, none⟩

namespace Grown

theorem nil : Grown [] [] where
  owned _ := rfl
  held h := (List.not_mem_nil h).elim
  unread _ := rfl

theorem mem (h : Grown events filled) {o : MetadataObject} (hkey : (key, items) ∈ filled)
    (ho : o ∈ items.toList) : Held events key o := by
  obtain ⟨a, hcell⟩ := h.held hkey
  exact ⟨⟨a, items⟩, congrArg Cell.state hcell, ho⟩

/-- Another collection is filled with what its program comes to. -/
theorem exists_next (h : Grown events filled) (hkey : ∀ items, (key, items) ∉ filled)
    (hcomes : ComesTo (Config.run TreeKey.family events).cells
      (Config.run TreeKey.family events).owned given (TreeKey.family.program key) (.ok items)) :
    ∃ later, Grown (events ++ later) ((key, items) :: filled) := by
  obtain ⟨d, hd⟩ := Config.exists_carriedOut (.run TreeKey.family events) (h.unread hkey) hcomes
  obtain ⟨later, hlater⟩ := hd.reached
  refine ⟨later, ?_, ?_, ?_⟩ <;> rw [Config.run_append, hlater]
  · intro other
    rw [hd.owned]
    exact h.owned other
  · intro other others hother
    rcases List.mem_cons.mp hother with heq | hold
    · cases heq
      exact ⟨_, hd.cell⟩
    · rw [hd.others other fun heq => hkey others (heq ▸ hold)]
      exact h.held hold
  · intro other hother
    have hne : other ≠ key := by
      rintro rfl
      exact hother items List.mem_cons_self
    rw [hd.others other hne]
    exact h.unread fun others hold => hother others (List.mem_cons_of_mem _ hold)

/-- Any collection of the tree that is unread can be filled with what its rows come to. -/
theorem exists_listed (h : Grown events filled) (c : Collection)
    (rows : List (List (String × String))) (items : NamedList MetadataObject)
    (hkey : ∀ items, (.listed c, items) ∉ filled) (hcheck : c.check = .ok ())
    (hplain : Envelope.PlainRows rows)
    (hfill : fillFrom c.label c.handler (rows.map Envelope.rowElement) .empty =
      .done (.ok items)) : ∃ later, Grown (events ++ later) ((.listed c, items) :: filled) := by
  apply h.exists_next hkey
  apply Collection.comesTo_listed hcheck hplain (List.mem_singleton_self _)
  rw [hfill]
  exact .done

/-- The dimensions of a group can be filled after those of the cube. -/
theorem exists_referring (h : Grown events filled) (hkey : ∀ items, (.listed c, items) ∉ filled)
    (hcheck : c.check = .ok ()) (hplain : Envelope.PlainRows rows)
    (hkind : c.kind = .groupDimensions) (hdims : (.listed c.cubeDimensions, dims) ∈ filled)
    (hfill : fill c.label (referringAnswer dims) (rows.map Envelope.rowElement) = .ok items) :
    ∃ later, Grown (events ++ later) ((.listed c, items) :: filled) := by
  obtain ⟨a, hcell⟩ := h.held hdims
  apply h.exists_next hkey
  apply Collection.comesTo_listed hcheck hplain (List.mem_singleton_self _)
  rw [← hfill]
  exact Collection.comesTo_referring hkind (h.owned _) hcell _

/-- Derived lists can be filled after all that they are made of. -/
theorem exists_derived {lists : List (NamedList MetadataObject)} (h : Grown events filled)
    (hkey : ∀ items, (.derived c, items) ∉ filled) (hdims : (.listed c, dims) ∈ filled)
    (hlists : List.Forall₂ (fun (d : MetadataObject) list =>
      (.listed ⟨d.scope, .hierarchies⟩, list) ∈ filled) dims.toList lists)
    (hjoin : Collection.join c.derivedLabel lists = .ok items) :
    ∃ later, Grown (events ++ later) ((.derived c, items) :: filled) := by
  have hcells : ∀ {ds lists}, List.Forall₂ (fun (d : MetadataObject) list =>
      (.listed ⟨d.scope, .hierarchies⟩, list) ∈ filled) ds lists →
      ∃ listings : List (Listing MetadataObject), List.Forall₂ (fun (d : MetadataObject) list =>
        (Config.run TreeKey.family events).cells (.listed ⟨d.scope, .hierarchies⟩) =
          ⟨.populated list, some list⟩) ds listings ∧ listings.map (·.items) = lists := by
    intro ds lists hlists
    induction hlists with
    | nil => exact ⟨[], .nil, rfl⟩
    | @cons d list _ _ hlist _ ih =>
      obtain ⟨listings, hlistings, rfl⟩ := ih
      obtain ⟨b, hcell⟩ := h.held hlist
      exact ⟨⟨b, list⟩ :: listings, .cons hcell hlistings, rfl⟩
  obtain ⟨a, hcell⟩ := h.held hdims
  obtain ⟨listings, hlistings, rfl⟩ := hcells hlists
  have hcomes : ComesTo (Config.run TreeKey.family events).cells
      (Config.run TreeKey.family events).owned [] (TreeKey.family.program (.derived c))
      (.ok items) := by
    rw [← hjoin]
    exact Collection.comesTo_derived hcell hlistings
  exact h.exists_next hkey hcomes

end Grown

/-! ## A cube with a measure group -/

def single (o : MetadataObject) : NamedList MetadataObject :=
  ⟨[o], List.nodup_singleton _⟩

def foodMartCube : MetadataObject where
  scope := foodMartSchema.scope.child .cubes "Sales"
    { foodMartSchema.scope.context with cube := some "Sales" }
  detail := .cube { name := "Sales", caption := "Sales", description := none }

def foodMartDimension (name uniqueName : String) : MetadataObject where
  scope := foodMartCube.scope.child .dimensions uniqueName
    { foodMartCube.scope.context with dimension := some uniqueName }
  detail := .dimension {
    name, uniqueName
    caption := name
    description := none
    type := .unknown
    defaultHierarchy := none
    ordinal := none }

def foodMartGroup : MetadataObject where
  scope := foodMartCube.scope.child .measureGroups "[Sales]"
    { foodMartCube.scope.context with measureGroup := some "Sales" }
  detail := .measureGroup { name := "Sales", caption := "Sales", description := none }

def foodMartDimensions : NamedList MetadataObject :=
  ⟨[foodMartDimension "Time" "[Time]", foodMartDimension "Store" "[Store]"], by decide⟩

def foodMartGroupDimensions : Collection :=
  ⟨foodMartGroup.scope, .groupDimensions⟩

/-- The dimensions of the measure group, if its rows name them the other way round. -/
def foodMartReversed : NamedList MetadataObject :=
  ⟨[foodMartDimension "Store" "[Store]", foodMartDimension "Time" "[Time]"], by decide⟩

/-- Rows that refer to dimensions. -/
def referringRows (names : List String) : List (List (String × String)) :=
  names.map fun name => [("DIMENSION_UNIQUE_NAME", name)]

/-- The lists on the way to the measure group, and the dimensions of the cube. -/
def foodMartLists : List (TreeKey × NamedList MetadataObject) :=
  [(.listed ⟨foodMartCube.scope, .measureGroups⟩, single foodMartGroup),
    (.listed ⟨foodMartCube.scope, .dimensions⟩, foodMartDimensions),
    (.listed ⟨foodMartSchema.scope, .cubes⟩, single foodMartCube),
    (.listed ⟨foodMartCatalog.scope, .schemas⟩, single foodMartSchema),
    (.listed ⟨foodMart.scope, .catalogs⟩, single foodMartCatalog)]

/-- There is a run that fills the lists of the sample tree. -/
theorem exists_foodMart : ∃ events, Grown events foodMartLists := by
  obtain ⟨_, hcatalogs⟩ := Grown.nil.exists_listed ⟨foodMart.scope, .catalogs⟩
    [[("CATALOG_NAME", "FoodMart")]] (single foodMartCatalog) (by simp) rfl (by decide) rfl
  obtain ⟨_, hschemas⟩ := hcatalogs.exists_listed ⟨foodMartCatalog.scope, .schemas⟩
    [[("SCHEMA_NAME", "Public")]] (single foodMartSchema) (by simp) rfl (by decide) rfl
  obtain ⟨_, hcubes⟩ := hschemas.exists_listed ⟨foodMartSchema.scope, .cubes⟩
    [[("CUBE_NAME", "Sales")]] (single foodMartCube) (by simp) rfl (by decide) rfl
  obtain ⟨_, hdims⟩ := hcubes.exists_listed ⟨foodMartCube.scope, .dimensions⟩
    [[("DIMENSION_NAME", "Time"), ("DIMENSION_UNIQUE_NAME", "[Time]")],
      [("DIMENSION_NAME", "Store"), ("DIMENSION_UNIQUE_NAME", "[Store]")]]
    foodMartDimensions (by simp) rfl (by decide) rfl
  obtain ⟨_, hgroups⟩ := hdims.exists_listed ⟨foodMartCube.scope, .measureGroups⟩
    [[("MEASUREGROUP_NAME", "Sales")]] (single foodMartGroup) (by simp) rfl (by decide) rfl
  exact ⟨_, hgroups⟩

/-- Where the sample tree is filled, the cube stands at the end of its path and holds the group. -/
theorem Grown.foodMart_at (h : Grown events filled)
    (hlists : ∀ entry ∈ foodMartLists, entry ∈ filled) :
    At events foodMart (.cube "FoodMart" "Public" "Sales") foodMartCube ∧
      Held events (.listed ⟨foodMartCube.scope, .measureGroups⟩) foodMartGroup := by
  have hsingle {key : TreeKey} {o : MetadataObject} (hkey : (key, single o) ∈ foodMartLists) :
      Held events key o := h.mem (hlists _ hkey) (List.mem_singleton_self o)
  obtain ⟨_, hcatalog⟩ : ∃ row, Collection.Built events ⟨foodMart.scope, .catalogs⟩ row
    foodMartCatalog := (hsingle (by simp [foodMartLists])).built (by simp)
  obtain ⟨_, hschema⟩ : ∃ row, Collection.Built events ⟨foodMartCatalog.scope, .schemas⟩ row
    foodMartSchema := (hsingle (by simp [foodMartLists])).built (by simp)
  obtain ⟨_, hcube⟩ : ∃ row, Collection.Built events ⟨foodMartSchema.scope, .cubes⟩ row
    foodMartCube := (hsingle (by simp [foodMartLists])).built (by simp)
  exact ⟨.cube (.schema (.catalog hcatalog rfl) hschema rfl) hcube rfl,
    hsingle (by simp [foodMartLists])⟩

/-- The rows of the group name a dimension twice, one by its short name and one that is not
there. -/
theorem exists_foodMartGroup :
    ∃ events,
      Grown events ((.listed foodMartGroupDimensions, foodMartReversed) :: foodMartLists) := by
  obtain ⟨events, h⟩ := exists_foodMart
  have hcube : (.listed foodMartGroupDimensions.cubeDimensions, foodMartDimensions) ∈
    foodMartLists := List.mem_cons_of_mem _ List.mem_cons_self
  have hnew : ∀ items, (.listed foodMartGroupDimensions, items) ∉ foodMartLists := by
    simp [foodMartLists, foodMartGroupDimensions]
  have hplain : Envelope.PlainRows
      (referringRows ["[Store]", "Time", "[Store]", "[Product]", "[Time]"]) := by
    decide
  obtain ⟨_, hgroup⟩ := h.exists_referring hnew rfl hplain rfl hcube rfl
  exact ⟨_, hgroup⟩

end CubeClient
