import CubeClient.NamedList
import CubeClient.Request.Message

/-!
# Programs of populations

A collection is filled by a program: it sends messages, it may read other collections while it
works, and it ends with the list or with an error. Between two of these steps anything else may
happen, so a program says what it does next and nothing about when.

`κ` names the collections and `ι` is the type of the objects in them.
-/

namespace CubeClient.Deferred

/-- The list that an attempt to fill a collection has built. Two reads answer the same list exactly
if the attempts are the same. -/
structure Listing (ι : Type) [Named ι] where
  attempt : Nat
  items : NamedList ι

/-- What a read of a collection answers. -/
abbrev ReadResult (ι : Type) [Named ι] :=
  Except ClientError (Listing ι)

/-- A computation that sends messages and reads collections. -/
inductive Program (κ ι : Type) [Named ι] (α : Type) where
  | done (result : α)
  | send (message : Message) (next : Reply → Program κ ι α)
  /-- Asks whether somebody still owns a collection. -/
  | owned (key : κ) (next : Bool → Program κ ι α)
  | read (key : κ) (next : ReadResult ι → Program κ ι α)
  /-- Reads collections side by side. -/
  | readAll (keys : List κ) (next : Except ClientError (List (Listing ι)) → Program κ ι α)

namespace Program

variable {κ ι : Type} [Named ι] {α β : Type}

/-- Goes on with the result of a program. -/
def bind (program : Program κ ι α) (f : α → Program κ ι β) : Program κ ι β :=
  match program with
  | .done result => f result
  | .send message next => .send message fun reply => (next reply).bind f
  | .owned key next => .owned key fun answer => (next answer).bind f
  | .read key next => .read key fun result => (next result).bind f
  | .readAll keys next => .readAll keys fun result => (next result).bind f

/-- Makes a call. -/
def ofCall (call : Call α) : Program κ ι (Except ClientError α) :=
  match call with
  | .refused error => .done (.error error)
  | .message message decode => .send message fun reply => .done (decode reply)

end Program

/-- The program that fills a collection. -/
abbrev Population (κ ι : Type) [Named ι] :=
  Program κ ι (Except ClientError (NamedList ι))

/-- The collections of an application: how each is called in messages, and how it is filled. -/
structure Family (κ ι : Type) [Named ι] where
  label : κ → String
  program : κ → Population κ ι

end CubeClient.Deferred
