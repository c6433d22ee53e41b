import CubeClient.Proofs.Deferred.Discover
import CubeClient.Proofs.Deferred.Terms
import CubeClient.Proofs.Deferred.Waiting
import CubeClient.Proofs.Lists.Lookup
import CubeClient.Proofs.Metadata.Joining
import CubeClient.Proofs.Metadata.Rows

/-!
# Where the tree comes from

Every object of the tree goes back to a row of a reply, and every error of a read to a reply, to a
row, or to the refusal of a request (`TreeKey.kept`). The dimensions of a measure group are no
objects of their own but the cube's, and derived lists are made of the objects that are there.
-/

namespace CubeClient

open CubeClient.Deferred CubeClient.Xml

/-- A reply arrives in the course of a run. -/
def Delivered {κ : Type} (events : List (Event κ)) (reply : Reply) : Prop :=
  ∃ q, Event.deliver q reply ∈ events

/-- An object is in the list of a collection after a run. -/
def Held (events : List (Event TreeKey)) (key : TreeKey) (o : MetadataObject) : Prop :=
  ∃ listing, ((Config.run TreeKey.family events).cells key).state = .populated listing ∧
    o ∈ listing.items.toList

namespace Collection

/-- The catalogue's verdict on the request of a collection. -/
def check (c : Collection) : Except ClientError Unit :=
  c.query.request.validate c.query.restrictions

/-- The request of a collection. -/
def message (c : Collection) : Message :=
  c.scope.client.discoverMessage c.query.request c.scope.context.catalog c.query.restrictions

/-- What the catalogue allows is asked for. -/
theorem program_of_check {c : Collection} (h : c.check = .ok ()) :
    TreeKey.family.program (.listed c) =
      populate c.label c.handler (.message c.message fun reply =>
        (Client.readPayload reply).map (Client.rowsOf c.query.request)) := by
  show populate c.label c.handler c.call = _
  rw [call, Client.discover_of_valid h]
  rfl

/-- What it does not allow is refused before anything is sent. -/
theorem program_of_refused {c : Collection} {e : ClientError} (h : c.check = .error e) :
    TreeKey.family.program (.listed c) = .done (.error e) := by
  rw [check] at h
  show populate c.label c.handler c.call = _
  rw [call, Client.discover_of_invalid h]
  rfl

/-- A reply of a run has a row that is one of the collection. -/
def HasRow (events : List (Event TreeKey)) (c : Collection) (row : Element) : Prop :=
  ∃ reply root, Delivered events reply ∧ Client.readPayload reply = .ok root ∧
    row ∈ Client.rowsOf c.query.request root

/-- Where an object of a collection comes from. -/
inductive Yields (events : List (Event TreeKey)) (c : Collection) (o : MetadataObject) : Prop
  | row {row : Element} (hkind : c.kind ≠ .groupDimensions) (hrow : c.HasRow events row)
      (hbuild : c.build row = .ok o)
  | cube (hkind : c.kind = .groupDimensions) (h : Held events (.listed c.cubeDimensions) o)

end Collection

namespace TreeKey

variable {events : List (Event TreeKey)} {c : Collection} {d o : MetadataObject}

/-- Where an error of a read comes from. A request that is refused is refused whatever happens. -/
inductive Faults (events : List (Event TreeKey)) : TreeKey → ClientError → Prop
  | refused {c : Collection} {e : ClientError} (h : c.check = .error e) :
      Faults events (.listed c) e
  | reply {c : Collection} {e : ClientError} {reply : Reply} (hcheck : c.check = .ok ())
      (hreply : Delivered events reply) (h : Client.readPayload reply = .error e) :
      Faults events (.listed c) e
  | rows {c : Collection} {e : ClientError} (hcheck : c.check = .ok ()) (h : RowFault e) :
      Faults events (.listed c) e
  | cube {c : Collection} {e : ClientError} (hcheck : c.check = .ok ())
      (hkind : c.kind = .groupDimensions) (h : Faults events (.listed c.cubeDimensions) e) :
      Faults events (.listed c) e
  | dimensions {c : Collection} {e : ClientError} (h : Faults events (.listed c) e) :
      Faults events (.derived c) e
  | hierarchies {c : Collection} {d : MetadataObject} {e : ClientError}
      (hd : Held events (.listed c) d) (h : Faults events (.listed ⟨d.scope, .hierarchies⟩) e) :
      Faults events (.derived c) e
  | joined {c : Collection} {e : ClientError} (h : RowFault e) : Faults events (.derived c) e

/-- The terms that the collections of the tree keep to. -/
def terms (events : List (Event TreeKey)) : Terms TreeKey MetadataObject where
  heard := Delivered events
  seen key listing :=
    ((Config.run TreeKey.family events).cells key).state = .populated listing
  sends
    | .listed c, message => c.check = .ok () ∧ message = c.message
    | .derived _, _ => False
  reads
    | .listed c, other => c.kind = .groupDimensions ∧ other = .listed c.cubeDimensions
    | .derived c, other => other = .listed c ∨
      ∃ d, Held events (.listed c) d ∧ other = .listed ⟨d.scope, .hierarchies⟩
  ends
    | .listed c, .ok items => c.check = .ok () ∧ ∀ o ∈ items.toList, c.Yields events o
    | .derived c, .ok items => ∀ o ∈ items.toList, ∃ d, Held events (.listed c) d ∧
      Held events (.listed ⟨d.scope, .hierarchies⟩) o
    | key, .error e => key.Faults events e

/-! ## Collections -/

/-- Resolving a row of a measure group reads the dimensions of the cube and yields one of them. -/
theorem keeps_resolveDimension (hcheck : c.check = .ok ()) (hkind : c.kind = .groupDimensions)
    (row : Element) (list : NamedList MetadataObject) :
    (c.resolveDimension row list).Keeps (terms events) TreeKey.family.label (.listed c)
      (RowEnd (c.Yields events) (Faults events (.listed c))) := by
  unfold Collection.resolveDimension
  cases hname : Field.string row "DIMENSION_UNIQUE_NAME" with
  | error e => exact .failed (.rows hcheck (Field.string_fails row _ e hname).rowFault)
  | ok uniqueName =>
    dsimp only
    split
    · exact .skipped
    · intro owned
      cases owned with
      | false => exact .failed (.rows hcheck rfl)
      | true =>
        refine ⟨⟨hkind, rfl⟩, fun result hresult => ?_⟩
        cases hresult with
        | error he => exact .failed (.cube hcheck hkind he)
        | refused => exact .failed (.rows hcheck rfl)
        | @list listing hseen =>
          show RowEnd _ _ (.ok (listing.items.get? uniqueName))
          cases hfound : listing.items.get? uniqueName with
          | none => exact .skipped
          | some o => exact .built (.cube hkind ⟨listing, hseen, NamedList.mem_of_get? hfound⟩)

theorem rowEnd_of_build (hcheck : c.check = .ok ()) (hkind : c.kind ≠ .groupDimensions)
    {row : Element} (hrow : c.HasRow events row) {f : MetadataObject → Option MetadataObject}
    (hf : ∀ o o', f o = some o' → o' = o) :
    RowEnd (c.Yields events) (Faults events (.listed c)) ((c.build row).map f) := by
  cases hbuild : c.build row with
  | error e => exact .failed (.rows hcheck (Collection.build_fails c row e hbuild).rowFault)
  | ok o =>
    show RowEnd _ _ (.ok (f o))
    cases ho : f o with
    | none => exact .skipped
    | some o' =>
      obtain rfl := hf o o' ho
      exact .built (.row hkind hrow hbuild)

theorem keeps_handler (hcheck : c.check = .ok ()) {row : Element} (hrow : c.HasRow events row)
    (list : NamedList MetadataObject) :
    (c.handler row list).Keeps (terms events) TreeKey.family.label (.listed c)
      (RowEnd (c.Yields events) (Faults events (.listed c))) := by
  unfold Collection.handler
  by_cases hkind : c.kind = .groupDimensions
  · rw [if_pos hkind]
    exact keeps_resolveDimension hcheck hkind row list
  · rw [if_neg hkind]
    split
    · refine rowEnd_of_build hcheck hkind hrow fun o o' ho => ?_
      split at ho
      · cases ho
      · exact (Option.some.inj ho).symm
    · exact rowEnd_of_build hcheck hkind hrow fun o o' ho => (Option.some.inj ho).symm

/-- A listed collection ends with objects of its rows, or with what is wrong with the reply or a
row. -/
theorem keeps_listed (events : List (Event TreeKey)) (c : Collection) :
    c.program.Keeps (terms events) TreeKey.family.label (.listed c)
      ((terms events).ends (.listed c)) := by
  rw [Collection.program, Collection.call, Client.discover]
  cases hcheck : c.check with
  | error e =>
    rw [Collection.check] at hcheck
    rw [hcheck]
    exact Faults.refused hcheck
  | ok _ =>
    have hvalid := hcheck
    rw [Collection.check] at hvalid
    rw [hvalid]
    refine ⟨⟨hcheck, rfl⟩, fun reply hreply => ?_⟩
    cases hread : Client.readPayload reply with
    | error e =>
      simp only [Program.bind, hread, Except.map]
      exact Faults.reply hcheck hreply hread
    | ok root =>
      simp only [Program.bind, hread, Except.map]
      have hfill : (fillFrom c.label c.handler (Client.rowsOf c.query.request root) .empty).Keeps
          (terms events) TreeKey.family.label (.listed c)
          (ListEnd (c.Yields events) (Faults events (.listed c))) := by
        refine keeps_fillFrom (fun row hrow => ?_) (fun name => .rows hcheck rfl) fun o ho => ?_
        · exact keeps_handler hcheck ⟨reply, root, hreply, hread, hrow⟩
        · exact (List.not_mem_nil ho).elim
      refine hfill.mono fun result hresult => ?_
      cases hresult with
      | listed hitems => exact ⟨hcheck, hitems⟩
      | failed he => exact he

/-! ## Derived lists -/

/-- Joined lists hold what the lists do. -/
theorem join_end (label : String) (lists : List (NamedList MetadataObject)) :
    ListEnd (fun o => ∃ list ∈ lists, o ∈ list.toList) RowFault (Collection.join label lists) := by
  have hjoins := Collection.joins_join label lists
  generalize Collection.join label lists = result at hjoins ⊢
  cases hjoins with
  | joined hlist => exact .listed fun o ho => List.mem_flatMap.mp (hlist ▸ ho)
  | repeated => exact .failed rfl

/-- Derived lists end with objects of the lists they are made of. -/
theorem keeps_derived (events : List (Event TreeKey)) (c : Collection) :
    c.derivedProgram.Keeps (terms events) TreeKey.family.label (.derived c)
      ((terms events).ends (.derived c)) := by
  refine ⟨Or.inl rfl, fun result hresult => ?_⟩
  cases hresult with
  | error he => exact Faults.dimensions he
  | refused => exact Faults.joined rfl
  | @list dimensions hseen =>
    have hheld : ∀ d ∈ dimensions.items.toList, Held events (.listed c) d :=
      fun d hd => ⟨dimensions, hseen, hd⟩
    refine ⟨?_, fun listings hlistings => ?_, ?_⟩
    · intro key hkey
      obtain ⟨d, hd, rfl⟩ := List.mem_map.mp hkey
      exact Or.inr ⟨d, hheld d hd, rfl⟩
    · show (terms events).ends (.derived c)
        (Collection.join c.derivedLabel (listings.map (·.items)))
      have hjoin := join_end c.derivedLabel (listings.map (·.items))
      generalize Collection.join c.derivedLabel (listings.map (·.items)) = result at hjoin
      cases hjoin with
      | failed he => exact Faults.joined he
      | listed hitems =>
        intro o ho
        obtain ⟨list, hlist, ho⟩ := hitems o ho
        obtain ⟨listing, hlisting, rfl⟩ := List.mem_map.mp hlist
        obtain ⟨key, hkey, hanswer⟩ := exists_of_forall₂ hlistings.flip hlisting
        obtain ⟨d, hd, rfl⟩ := List.mem_map.mp hkey
        cases hanswer with
        | list hseen => exact ⟨d, hheld d hd, listing, hseen, ho⟩
    · intro key hkey e he
      obtain ⟨d, hd, rfl⟩ := List.mem_map.mp hkey
      cases he with
      | error he => exact Faults.hierarchies (hheld d hd) he
      | refused => exact Faults.joined rfl

/-- In every run, all populations are on the way to where they may end. -/
theorem kept (events : List (Event TreeKey)) :
    Config.Kept (terms events) TreeKey.family.label (Config.run TreeKey.family events) := by
  refine Config.Kept.run (fun key => ?_) (fun q reply hreply => ⟨q, hreply⟩)
    fun key listing hs => hs
  cases key with
  | listed c => exact keeps_listed events c
  | derived c => exact keeps_derived events c

/-! ## Runs -/

theorem rank_lt_of_reads {key other : TreeKey} (h : (terms events).reads key other) :
    other.rank < key.rank := by
  cases key with
  | listed c =>
    obtain ⟨hkind, rfl⟩ := h
    simp [rank, hkind, Collection.cubeDimensions]
  | derived c =>
    rcases h with rfl | ⟨d, -, rfl⟩
    · simp only [rank]
      split <;> omega
    · simp [rank]

/-- Every error that a read answers has its source; nobody is refused for coming back. -/
theorem faults_of_finished {i : Nat} {r : Reader TreeKey MetadataObject} {own : Option Nat}
    {e : ClientError} (hr : (Config.run TreeKey.family events).readers[i]? = some r)
    (hp : r.phase = .finished own (.error e)) : r.key.Faults events e := by
  have hkept := kept events
  have hphase := hkept.reader hr
  rw [hp] at hphase
  cases hphase with
  | failed he =>
    cases hkey : r.key <;> rw [hkey] at he <;> exact he
  | refused =>
    have hwithin := (Config.Answered.run TreeKey.family events).refused hr hp
    exact absurd hwithin (hkept.key_notMem_within (fun _ _ => rank_lt_of_reads) hr)

/-- What is sent on behalf of a collection is its request, and only if the catalogue allows it. -/
theorem sent_cases {s : Sent} {key : TreeKey}
    (hs : s ∈ (Config.run TreeKey.family events).sent)
    (ha : (Config.run TreeKey.family events).attempts[s.attempt]? = some key) :
    ∃ c, key = .listed c ∧ c.check = .ok () ∧ s.message = c.message := by
  have hsends := (kept events).sent hs ha
  cases key with
  | listed c => exact ⟨c, rfl, hsends⟩
  | derived c => exact hsends.elim

end TreeKey

/-- An object is in the list of a collection, and goes back to a row of a reply. -/
structure Collection.Built (events : List (Event TreeKey)) (c : Collection) (row : Element)
    (o : MetadataObject) : Prop where
  held : Held events (.listed c) o
  hasRow : c.HasRow events row
  build : c.build row = .ok o

/-- What the object is follows from the list. -/
theorem Collection.Built.reads {events : List (Event TreeKey)} {c : Collection} {row : Element}
    {o : MetadataObject} (h : c.Built events row o) :
    ∃ detail inner, o.detail = detail ∧ Reads c.scope.context row c.kind detail inner := by
  obtain ⟨inner, hreads, -⟩ := reads_of_build h.build
  exact ⟨_, inner, rfl, hreads⟩

namespace Held

variable {events : List (Event TreeKey)} {c : Collection} {o : MetadataObject}

/-- What a listed collection holds is what it yields, and it was allowed to ask. -/
theorem listed (h : Held events (.listed c) o) : c.check = .ok () ∧ c.Yields events o := by
  obtain ⟨listing, hs, ho⟩ := h
  obtain ⟨hcheck, hitems⟩ := (TreeKey.kept events).cell hs
  exact ⟨hcheck, hitems o ho⟩

/-- What it holds is built from a row, those of measure groups apart. -/
theorem built (h : Held events (.listed c) o) (hkind : c.kind ≠ .groupDimensions) :
    ∃ row, c.Built events row o := by
  cases h.listed.2 with
  | @row row _ hrow hbuild => exact ⟨row, h, hrow, hbuild⟩
  | cube hgroup => exact absurd hgroup hkind

/-- The dimensions of a measure group are those of the cube. -/
theorem ofCube (h : Held events (.listed c) o) (hkind : c.kind = .groupDimensions) :
    Held events (.listed c.cubeDimensions) o := by
  cases h.listed.2 with
  | row hother => exact absurd hkind hother
  | cube _ hheld => exact hheld

/-- What derived lists hold is held by the hierarchies of one of the dimensions. -/
theorem derived (h : Held events (.derived c) o) :
    ∃ d, Held events (.listed c) d ∧ Held events (.listed ⟨d.scope, .hierarchies⟩) o := by
  obtain ⟨listing, hs, ho⟩ := h
  exact (TreeKey.kept events).cell hs o ho

end Held

end CubeClient
