import CubeClient.Proofs.Deferred.Filling
import CubeClient.Proofs.Metadata.Growth

/-!
# Populations

A collection whose handler needs nothing but the rows ends every attempt with what becomes of the
rows of the reply to its request: with the error of the reply if it has no rows, and else with what
`PlainFill` or `MergingFill` says of them.

The collections of the tree make their objects from the fields of a row. So nothing that goes wrong
with a row is a name that is taken, and a merging collection never reports one.
-/

namespace CubeClient.Deferred

open CubeClient.Xml

variable {κ ι : Type} [Named ι] {label : String} {build : Element → Except ClientError ι}

theorem fillFrom_plain (label : String) (build : Element → Except ClientError ι)
    (rows : List Element) :
    ∃ outcome, fillFrom (κ := κ) label (.plain build) rows .empty = .done outcome ∧
      PlainFill label build rows outcome :=
  ⟨_, fillFrom_done label _ rows .empty, plainFill label build rows⟩

theorem fillFrom_merging (label : String) (build : Element → Except ClientError ι)
    (rows : List Element) :
    ∃ outcome, fillFrom (κ := κ) label (.merging build) rows .empty = .done outcome ∧
      MergingFill build rows outcome :=
  ⟨_, fillFrom_done label (mergingAnswer build) rows .empty, mergingFill label build rows⟩

namespace Config

variable {family : Family κ ι} {key : κ} {message : Message} {handler : RowHandler κ ι}
  {decode : Reply → Except ClientError (List Element)}
  {fills : List Element → Except ClientError (NamedList ι) → Prop}

/-- What becomes of a reply: its error, or what becomes of its rows. -/
inductive Becomes (decode : Reply → Except ClientError (List Element))
    (fills : List Element → Except ClientError (NamedList ι) → Prop) (reply : Reply) :
    Except ClientError (NamedList ι) → Prop
  | refused {e : ClientError} (h : decode reply = .error e) : Becomes decode fills reply (.error e)
  | filled {rows : List Element} {outcome : Except ClientError (NamedList ι)}
      (h : decode reply = .ok rows) (hfills : fills rows outcome) :
      Becomes decode fills reply outcome

/-- A population that asks by a message fills from whatever rows come back. -/
theorem populate_eq_send (message : Message)
    (decode : Reply → Except ClientError (List Element))
    (hfills : ∀ rows, ∃ outcome, fillFrom (κ := κ) label handler rows .empty = .done outcome ∧
      fills rows outcome) :
    ∃ next, populate label handler (.message message decode) = .send message next ∧
      ∀ reply, ∃ outcome, next reply = .done outcome ∧ Becomes decode fills reply outcome := by
  refine ⟨_, rfl, fun reply => ?_⟩
  cases hdecode : decode reply with
  | error e => exact ⟨_, by simp only [Program.bind, hdecode], .refused hdecode⟩
  | ok rows =>
    obtain ⟨outcome, hdone, houtcome⟩ := hfills rows
    refine ⟨outcome, ?_, .filled hdecode houtcome⟩
    simp only [Program.bind, hdecode, hdone]

variable [DecidableEq κ]

/-- Every attempt on a collection ends with what becomes of the reply to its request. -/
structure FilledBy (family : Family κ ι) (key : κ) (message : Message)
    (decode : Reply → Except ClientError (List Element))
    (fills : List Element → Except ClientError (NamedList ι) → Prop) (c : Config κ ι) : Prop where
  ended : ∀ {i a : Nat} {r : Reader κ ι} {result : ReadResult ι}, c.readers[i]? = some r →
    r.key = key → r.phase = .finished (some a) result →
    ∃ q reply outcome, c.IsRequest a q message ∧ c.reply? q = some reply ∧
      Becomes decode fills reply outcome ∧ result = outcome.map fun items => ⟨a, items⟩
  /-- It has ended two turns after the reply has arrived, unless it is given up. -/
  ends : ∀ {i a q : Nat} {r : Reader κ ι} {reply : Reply}, c.readers[i]? = some r → r.key = key →
    r.phase.own? = some a → c.IsRequest a q message → c.reply? q = some reply →
    ∃ outcome, Becomes decode fills reply outcome ∧
      ∀ later : List (Event κ), 2 ≤ turns i later →
        ∃ s, (later.foldl (step family) c).readers[i]? = some s ∧
          (s.phase = .finished (some a) (outcome.map fun items => ⟨a, items⟩) ∨
            s.phase = .abandoned (some a))

/-- A collection is filled by its rows if filling ends at once, whatever the rows are. -/
theorem filledBy_of_program
    (hfills : ∀ rows, ∃ outcome, fillFrom (κ := κ) label handler rows .empty = .done outcome ∧
      fills rows outcome)
    (hprogram : family.program key = populate label handler (.message message decode))
    (events : List (Event κ)) :
    FilledBy family key message decode fills (run family events) := by
  obtain ⟨next, hsend, hnext⟩ := populate_eq_send message decode hfills
  have hheard := Heard.run (hprogram.trans hsend) events
  constructor
  · intro i a r result hr hkey hp
    obtain ⟨q, reply, hq, hreply, hresult⟩ := hheard.of_finished hr hkey hp
    obtain ⟨outcome, hdone, hbecomes⟩ := hnext reply
    exact ⟨q, reply, outcome, hq, hreply, hbecomes, hresult outcome hdone⟩
  · intro i a q r reply hr hkey hown hq hreply
    obtain ⟨outcome, hdone, hbecomes⟩ := hnext reply
    refine ⟨outcome, hbecomes, fun later hturns => ?_⟩
    exact (hheard.settling hr hkey hown hq hreply hdone).foldl hr family hturns

end Config

end CubeClient.Deferred

namespace CubeClient

open CubeClient.Deferred CubeClient.Xml

namespace Collection

variable {c : Collection}

/-- What becomes of the rows of a collection. -/
def Fills (c : Collection) (rows : List Element)
    (outcome : Except ClientError (NamedList MetadataObject)) : Prop :=
  if c.kind.merges then
    MergingFill c.build rows outcome ∧ ∀ label name, outcome ≠ .error (.duplicateName label name)
  else PlainFill c.label c.build rows outcome

/-- Building an object from a row never reports a name as a duplicate. -/
theorem build_ne_duplicateName (c : Collection) (row : Element) (label name : String) :
    c.build row ≠ .error (.duplicateName label name) := by
  intro h
  cases build_fails c row _ h

/-- The handlers of the tree fill as their collections say, those of measure groups apart. -/
theorem fillFrom_handler (hkind : c.kind ≠ .groupDimensions) (rows : List Element) :
    ∃ outcome, fillFrom c.label c.handler rows .empty = .done outcome ∧ c.Fills rows outcome := by
  unfold handler Fills
  rw [if_neg hkind]
  split
  · obtain ⟨outcome, hdone, houtcome⟩ := fillFrom_merging c.label c.build rows
    exact ⟨outcome, hdone, houtcome, fun label name => houtcome.unrefused fun row _ =>
      c.build_ne_duplicateName row label name⟩
  · exact fillFrom_plain c.label c.build rows

end Collection

/-- What becomes of rows, for all builders, for all collections that are filled with them in any
run, and for the collections of the tree. -/
theorem populated_from_rows :
    (∀ {κ ι : Type} [Named ι] (label : String) (build : Element → Except ClientError ι)
      (rows : List Element),
      (∃ outcome, fillFrom (κ := κ) label (.plain build) rows .empty = .done outcome ∧
        PlainFill label build rows outcome) ∧
      ∃ outcome, fillFrom (κ := κ) label (.merging build) rows .empty = .done outcome ∧
        MergingFill build rows outcome) ∧
    (∀ {κ ι : Type} [Named ι] [DecidableEq κ] (family : Family κ ι) (key : κ) (label : String)
      (build : Element → Except ClientError ι) (message : Message)
      (decode : Reply → Except ClientError (List Element)) (events : List (Event κ)),
      (family.program key = populate label (.plain build) (.message message decode) →
        Config.FilledBy family key message decode (PlainFill label build)
          (Config.run family events)) ∧
      (family.program key = populate label (.merging build) (.message message decode) →
        Config.FilledBy family key message decode (MergingFill build)
          (Config.run family events))) ∧
    ∀ (c : Collection) (events : List (Event TreeKey)), c.check = .ok () →
      c.kind ≠ .groupDimensions →
      Config.FilledBy TreeKey.family (.listed c) c.message
        (fun reply => (Client.readPayload reply).map (Client.rowsOf c.query.request)) c.Fills
        (Config.run TreeKey.family events) := by
  refine ⟨?_, ?_, ?_⟩
  · intro κ ι _ label build rows
    exact ⟨fillFrom_plain label build rows, fillFrom_merging label build rows⟩
  · intro κ ι _ _ family key label build message decode events
    constructor
    · intro hprogram
      exact Config.filledBy_of_program (fillFrom_plain label build) hprogram events
    · intro hprogram
      exact Config.filledBy_of_program (fillFrom_merging label build) hprogram events
  · intro c events hcheck hkind
    exact Config.filledBy_of_program (Collection.fillFrom_handler hkind)
      (Collection.program_of_check hcheck) events

/-- The catalogs of a server that lists one. -/
theorem populated_from_rows_catalogs :
    localCatalogs.check = .ok () ∧ localCatalogs.kind ≠ .groupDimensions ∧
    TreeKey.family.program (.listed localCatalogs) = populate localCatalogs.label
      (.plain localCatalogs.build) (.message localCatalogs.message fun reply =>
        (Client.readPayload reply).map (Client.rowsOf .catalogs)) ∧
    (∃ outcome, PlainFill localCatalogs.label localCatalogs.build
        [Envelope.rowElement [("CATALOG_NAME", "FoodMart")]] outcome ∧
      ∃ s, (Config.run TreeKey.family
          [.start (.listed localCatalogs), .advance 0, .advance 0,
            .deliver 0 (rowReply [("CATALOG_NAME", "FoodMart")]),
            .advance 0, .advance 0]).readers[0]? = some s ∧
        (s.phase = .finished (some 0) (outcome.map fun items => ⟨0, items⟩) ∨
          s.phase = .abandoned (some 0))) ∧
    Config.FilledBy TreeKey.family (.listed localCatalogs) localCatalogs.message
      (fun reply => (Client.readPayload reply).map (Client.rowsOf .catalogs)) localCatalogs.Fills
      (Config.run TreeKey.family [.start (.listed localCatalogs), .advance 0]) := by
  have hcheck : localCatalogs.check = .ok () := by decide
  have hkind : localCatalogs.kind ≠ .groupDimensions := by decide
  have hprogram : TreeKey.family.program (.listed localCatalogs) = populate localCatalogs.label
      (.plain localCatalogs.build) (.message localCatalogs.message fun reply =>
        (Client.readPayload reply).map (Client.rowsOf .catalogs)) := rfl
  have hplain : Envelope.PlainRows [[("CATALOG_NAME", "FoodMart")]] := by
    unfold Envelope.PlainRows
    decide
  obtain ⟨root, hread, hrows⟩ := rowsOf_rowReply hplain
  have hfilled := (populated_from_rows.2.1 TreeKey.family (.listed localCatalogs)
    localCatalogs.label localCatalogs.build localCatalogs.message _
    [.start (.listed localCatalogs), .advance 0, .advance 0,
      .deliver 0 (rowReply [("CATALOG_NAME", "FoodMart")])]).1 hprogram
  obtain ⟨outcome, hbecomes, hends⟩ := hfilled.ends (i := 0) (a := 0) (q := 0) rfl rfl rfl
    ⟨rfl, fun p _ hp _ => absurd hp (Nat.not_lt_zero p)⟩ rfl
  refine ⟨hcheck, hkind, hprogram, ⟨outcome, ?_, hends [.advance 0, .advance 0] (by decide)⟩,
    populated_from_rows.2.2 localCatalogs _ hcheck hkind⟩
  cases hbecomes with
  | refused herror =>
    rw [hread] at herror
    cases herror
  | filled hok hfills =>
    rw [hread] at hok
    cases hok
    rwa [hrows] at hfills

end CubeClient
