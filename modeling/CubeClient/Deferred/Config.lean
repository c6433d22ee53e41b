import CubeClient.Deferred.Program

/-!
# Readers of collections

A collection is empty, being filled, or filled for good. The first reader of an empty collection
fills it; a reader that comes while it is being filled waits until that attempt is over and then
looks again, so of many readers only one sends the request, and if its attempt fails it alone gets
the error and one of the others tries next. A read that is issued from inside the population of the
collection it reads would wait for itself, and is refused.

`Config.step` is one step of one reader, or one thing that the outside does: a reader is started or
abandoned, a reply arrives, an owner goes away. An event that does not apply changes nothing, so
every list of events is a run, and every way in which readers can take turns is one of them.

An attempt is numbered, and as long as it lasts its number is in `running`; whoever waits for it
can go on when it is not there any more.
-/

namespace CubeClient.Deferred

/-- What a collection holds. -/
inductive CellState (ι : Type) [Named ι] where
  | empty
  | populating (attempt : Nat)
  | populated (listing : Listing ι)

/-- A collection: its state, and the list that readers find without looking at the state. -/
structure Cell (ι : Type) [Named ι] where
  state : CellState ι
  published : Option (Listing ι)

/-- Where a reader is. One that fills its collection carries the number of its attempt. -/
inductive Phase (κ ι : Type) [Named ι] where
  | entering
  | waiting (attempt : Nat)
  | working (attempt : Nat) (program : Population κ ι)
  | awaitingReply (attempt request : Nat) (next : Reply → Population κ ι)
  | awaitingRead (attempt child : Nat) (next : ReadResult ι → Population κ ι)
  | awaitingReads (attempt : Nat) (children : List Nat)
      (next : Except ClientError (List (Listing ι)) → Population κ ι)
  /-- Over; with the attempt that was the reader's own, if it made one. -/
  | finished (attempt : Option Nat) (result : ReadResult ι)
  /-- Given up by whoever asked; with the attempt that was cut short by it. -/
  | abandoned (attempt : Option Nat)

/-- A read of a collection. Readers are numbered in the order in which they are started. -/
structure Reader (κ ι : Type) [Named ι] where
  key : κ
  /-- The readers on whose behalf this one reads, the nearest first. -/
  ancestors : List Nat
  /-- The collections inside whose populations the read was issued. -/
  within : List κ
  phase : Phase κ ι

/-- A message that an attempt has sent. -/
structure Sent where
  attempt : Nat
  message : Message
  deriving DecidableEq, Repr

/-- All collections and all who read them. -/
structure Config (κ ι : Type) [Named ι] where
  cells : κ → Cell ι
  readers : List (Reader κ ι)
  /-- The collection of each attempt, in the order in which attempts were begun. -/
  attempts : List κ
  running : List Nat
  sent : List Sent
  replies : List (Nat × Reply)
  owned : κ → Bool

namespace Phase

variable {κ ι : Type} [Named ι]

/-- The attempt that is under way. -/
def active? : Phase κ ι → Option Nat
  | .working attempt _ => some attempt
  | .awaitingReply attempt _ _ => some attempt
  | .awaitingRead attempt _ _ => some attempt
  | .awaitingReads attempt _ _ => some attempt
  | _ => none

/-- Whether nothing is left to do. -/
def isOver : Phase κ ι → Bool
  | .finished _ _ => true
  | .abandoned _ => true
  | _ => false

/-- What the read has answered. -/
def result? : Phase κ ι → Option (ReadResult ι)
  | .finished _ result => some result
  | _ => none

end Phase

namespace Config

variable {κ ι : Type} [DecidableEq κ] [Named ι]

/-- No collection is filled and nobody reads. -/
def initial : Config κ ι :=
  { cells := fun _ => ⟨.empty, none⟩
    readers := []
    attempts := []
    running := []
    sent := []
    replies := []
    owned := fun _ => true }

/-- Changes a collection. -/
def setCell (c : Config κ ι) (key : κ) (cell : Cell ι) : Config κ ι :=
  { c with cells := fun k => if k = key then cell else c.cells k }

/-- Moves a reader. -/
def setPhase (c : Config κ ι) (i : Nat) (phase : Phase κ ι) : Config κ ι :=
  { c with readers := c.readers.modify i fun reader => { reader with phase } }

/-- What a reader has answered. -/
def result? (c : Config κ ι) (i : Nat) : Option (ReadResult ι) :=
  c.readers[i]?.bind (·.phase.result?)

/-- The reply to a message, if it has arrived. -/
def reply? (c : Config κ ι) (request : Nat) : Option Reply :=
  (c.replies.find? (·.1 == request)).map (·.2)

/-- What reads side by side have answered together: the first error in their order, or all lists
when the last is there. -/
def joined? (c : Config κ ι) (children : List Nat) :
    Option (Except ClientError (List (Listing ι))) :=
  match children.findSome? fun i =>
    match c.result? i with
    | some (.error error) => some error
    | _ => none with
  | some error => some (.error error)
  | none =>
    (children.mapM fun i =>
      match c.result? i with
      | some (.ok listing) => some listing
      | _ => none).map .ok

/-- Whether a reader is one of some others or reads on behalf of one of them. -/
def isUnder (roots : List Nat) (i : Nat) (reader : Reader κ ι) : Bool :=
  roots.contains i || reader.ancestors.any roots.contains

/-- Gives up a reader. The collection that it was filling is empty again. -/
def release (c : Config κ ι) (i : Nat) (reader : Reader κ ι) : Config κ ι :=
  match reader.phase.active? with
  | some attempt =>
    { (c.setCell reader.key { c.cells reader.key with state := .empty }).setPhase i
        (.abandoned (some attempt)) with
      running := c.running.filter (· != attempt) }
  | none => c.setPhase i (.abandoned none)

/-- Gives up readers and all who read on their behalf. -/
def abandon (c : Config κ ι) (roots : List Nat) : Config κ ι :=
  (c.readers.zipIdx).foldl (fun c (reader, i) =>
    if isUnder roots i reader && !reader.phase.isOver then c.release i reader else c) c

/-- A reader looks at its collection. -/
def enter (family : Family κ ι) (c : Config κ ι) (i : Nat) (reader : Reader κ ι) : Config κ ι :=
  let cell := c.cells reader.key
  match cell.published, cell.state with
  | some listing, _ => c.setPhase i (.finished none (.ok listing))
  | none, .populated listing => c.setPhase i (.finished none (.ok listing))
  | none, .populating attempt =>
    if reader.key ∈ reader.within then
      c.setPhase i (.finished none (.error (.reentrantPopulation (family.label reader.key))))
    else c.setPhase i (.waiting attempt)
  | none, .empty =>
    let attempt := c.attempts.length
    { (c.setCell reader.key { cell with state := .populating attempt }).setPhase i
        (.working attempt (family.program reader.key)) with
      attempts := c.attempts ++ [reader.key]
      running := attempt :: c.running }

/-- An attempt is over, with a list or with an error. -/
def finish (c : Config κ ι) (i : Nat) (reader : Reader κ ι) (attempt : Nat)
    (result : Except ClientError (NamedList ι)) : Config κ ι :=
  let cell : Cell ι :=
    match result with
    | .ok items => ⟨.populated ⟨attempt, items⟩, some ⟨attempt, items⟩⟩
    | .error _ => { c.cells reader.key with state := .empty }
  { (c.setCell reader.key cell).setPhase i
      (.finished (some attempt) (result.map fun items => ⟨attempt, items⟩)) with
    running := c.running.filter (· != attempt) }

/-- The reads that a reader issues from inside its population. -/
def childReaders (i : Nat) (reader : Reader κ ι) (keys : List κ) : List (Reader κ ι) :=
  keys.map fun key => ⟨key, i :: reader.ancestors, reader.key :: reader.within, .entering⟩

/-- A reader takes the next step of its program. -/
def work (c : Config κ ι) (i : Nat) (reader : Reader κ ι) (attempt : Nat) :
    Population κ ι → Config κ ι
  | .done result => c.finish i reader attempt result
  | .send message next =>
    { c.setPhase i (.awaitingReply attempt c.sent.length next) with
      sent := c.sent ++ [⟨attempt, message⟩] }
  | .owned key next => c.setPhase i (.working attempt (next (c.owned key)))
  | .read key next =>
    let c' := c.setPhase i (.awaitingRead attempt c.readers.length next)
    { c' with readers := c'.readers ++ childReaders i reader [key] }
  | .readAll keys next =>
    let children := (List.range keys.length).map (c.readers.length + ·)
    let c' := c.setPhase i (.awaitingReads attempt children next)
    { c' with readers := c'.readers ++ childReaders i reader keys }

/-- A reader takes its next step, if it can. When one of several reads side by side has failed, the
others are given up. -/
def advance (family : Family κ ι) (c : Config κ ι) (i : Nat) : Config κ ι :=
  match c.readers[i]? with
  | none => c
  | some reader =>
    match reader.phase with
    | .entering => c.enter family i reader
    | .waiting attempt => if attempt ∈ c.running then c else c.setPhase i .entering
    | .working attempt program => c.work i reader attempt program
    | .awaitingReply attempt request next =>
      match c.reply? request with
      | none => c
      | some reply => c.setPhase i (.working attempt (next reply))
    | .awaitingRead attempt child next =>
      match c.result? child with
      | none => c
      | some result => c.setPhase i (.working attempt (next result))
    | .awaitingReads attempt children next =>
      match c.joined? children with
      | none => c
      | some (.error error) =>
        (c.abandon children).setPhase i (.working attempt (next (.error error)))
      | some (.ok listings) => c.setPhase i (.working attempt (next (.ok listings)))
    | .finished _ _ => c
    | .abandoned _ => c

/-- A read is started from outside all populations. -/
def start (c : Config κ ι) (key : κ) : Config κ ι :=
  { c with readers := c.readers ++ [⟨key, [], [], .entering⟩] }

/-- A reply arrives. Only the first one to a message counts. -/
def deliver (c : Config κ ι) (request : Nat) (reply : Reply) : Config κ ι :=
  if request < c.sent.length ∧ (c.reply? request).isNone then
    { c with replies := c.replies ++ [(request, reply)] }
  else c

/-- Whoever issued a read from outside gives it up. -/
def giveUp (c : Config κ ι) (i : Nat) : Config κ ι :=
  match c.readers[i]? with
  | some reader => if reader.ancestors = [] then c.abandon [i] else c
  | none => c

/-- The last owner of a collection goes away. -/
def disown (c : Config κ ι) (key : κ) : Config κ ι :=
  { c with owned := fun k => k ≠ key && c.owned k }

end Config

/-- What can happen next. -/
inductive Event (κ : Type) where
  | start (key : κ)
  | advance (reader : Nat)
  | deliver (request : Nat) (reply : Reply)
  | giveUp (reader : Nat)
  | disown (key : κ)

namespace Config

variable {κ ι : Type} [DecidableEq κ] [Named ι]

/-- One thing happens. -/
def step (family : Family κ ι) (c : Config κ ι) : Event κ → Config κ ι
  | .start key => c.start key
  | .advance i => c.advance family i
  | .deliver request reply => c.deliver request reply
  | .giveUp i => c.giveUp i
  | .disown key => c.disown key

/-- What a run leads to. -/
def run (family : Family κ ι) (events : List (Event κ)) : Config κ ι :=
  events.foldl (step family) initial

end Config

end CubeClient.Deferred
