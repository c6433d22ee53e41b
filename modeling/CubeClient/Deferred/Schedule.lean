import CubeClient.Deferred.Config

/-!
# Taking turns

Of all runs this is the one of a single thread: readers move in the order in which they were
started, each as soon as it can, and a reply is fetched only when nobody can move. Replies come in
the order of the messages.
-/

namespace CubeClient.Deferred

namespace Config

variable {κ ι σ : Type} [DecidableEq κ] [Named ι]

/-- Whether a reader can take a step. -/
def canMove (c : Config κ ι) (reader : Reader κ ι) : Bool :=
  match reader.phase with
  | .entering => true
  | .waiting attempt => !c.running.contains attempt
  | .working _ _ => true
  | .awaitingReply _ request _ => (c.reply? request).isSome
  | .awaitingRead _ child _ => (c.result? child).isSome
  | .awaitingReads _ children _ => (c.joined? children).isSome
  | .finished _ _ => false
  | .abandoned _ => false

/-- The first reader that can take a step. -/
def nextMover? (c : Config κ ι) : Option Nat :=
  c.readers.findIdx? c.canMove

/-- How many steps a run may take. No population of interest comes near. -/
def stepLimit : Nat := 10000000

/-- Lets readers move until none can. -/
def moveAll (family : Family κ ι) : Nat → Config κ ι → Config κ ι
  | 0, c => c
  | limit + 1, c =>
    match c.nextMover? with
    | none => c
    | some i => moveAll family limit (c.advance family i)

/-- Lets readers move and fetches replies until all is quiet. -/
def settle (family : Family κ ι) (respond : σ → Message → Reply × σ) :
    Nat → Config κ ι → σ → Config κ ι × σ
  | 0, c, server => (c, server)
  | limit + 1, c, server =>
    match c.nextMover? with
    | some i => settle family respond limit (c.advance family i) server
    | none =>
      match c.sent[c.replies.length]? with
      | none => (c, server)
      | some sent =>
        let (reply, server) := respond server sent.message
        settle family respond limit (c.deliver c.replies.length reply) server

/-- The collections as they are, without the readers that are done with them. -/
def atRest (c : Config κ ι) : Config κ ι :=
  { c with readers := [], sent := [], replies := [] }

/-- Whether a collection is filled. -/
def isPopulated (c : Config κ ι) (key : κ) : Bool :=
  (c.cells key).published.isSome

/-- Reads a collection several times at once. -/
def readConcurrently (family : Family κ ι) (respond : σ → Message → Reply × σ) (key : κ)
    (count : Nat) (c : Config κ ι) (server : σ) :
    List (ReadResult ι) × Config κ ι × σ :=
  let started := (List.range count).foldl (fun c _ => c.start key) c.atRest
  let (settled, server) := settle family respond stepLimit started server
  ((List.range count).filterMap settled.result?, settled.atRest, server)

/-- Reads a collection; `none` if the read never ends. -/
def readOnce (family : Family κ ι) (respond : σ → Message → Reply × σ) (key : κ)
    (c : Config κ ι) (server : σ) : Option (ReadResult ι) × Config κ ι × σ :=
  let (results, c, server) := readConcurrently family respond key 1 c server
  (results.head?, c, server)

/-- Starts a read and gives it up as soon as it would have to wait. Answers whether it had to; what
has been sent is still answered. -/
def readBriefly (family : Family κ ι) (respond : σ → Message → Reply × σ) (key : κ)
    (c : Config κ ι) (server : σ) : Bool × Config κ ι × σ :=
  let moved := moveAll family stepLimit (c.atRest.start key)
  let (settled, server) := settle family respond stepLimit (moved.giveUp 0) server
  ((moved.result? 0).isNone, settled.atRest, server)

end Config

end CubeClient.Deferred
