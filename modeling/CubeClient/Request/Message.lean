import CubeClient.Request.Catalogue

/-!
# Messages

What a client hands to a transport is an action and an encoded envelope, and what it gets back is
the body of a response or the reason why there is none. A call is a message together with the
reading of its answer; a call that would be refused anyway is never sent.
-/

namespace CubeClient

/-- An encoded request. -/
structure Message where
  action : Action
  body : Text.Bytes
  deriving DecidableEq, Repr

/-- What comes back for a message. -/
abbrev Reply := Except ClientError Text.Bytes

/-- A message and the reading of its reply, or the reason why nothing is sent. -/
inductive Call (α : Type) where
  | refused (error : ClientError)
  | message (message : Message) (read : Reply → Except ClientError α)

namespace Call

variable {α β : Type}

/-- Reads on from what the reply says. -/
def andThen (call : Call α) (f : α → Except ClientError β) : Call β :=
  match call with
  | .refused error => .refused error
  | .message m read => .message m fun reply => read reply >>= f

/-- The message that is sent. -/
def message? : Call α → Option Message
  | .refused _ => none
  | .message m _ => some m

end Call

end CubeClient
