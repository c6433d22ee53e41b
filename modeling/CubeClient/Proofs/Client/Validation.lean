import CubeClient.Proofs.Deferred.Discover
import CubeClient.Proofs.Request.Validation
import CubeClient.Transport.Scripted

/-!
# Restrictions that are sent

A client checks the restrictions of a request against the catalogue before it encodes anything. What
the catalogue accepts goes out as one message, and what it refuses not at all: the call ends with
the verdict, and the server does not learn of it (`RequestType.Judged`).
-/

namespace CubeClient

namespace ScriptedServer

/-- A message is counted, whether it arrives or is lost. -/
theorem sent_respond (server : ScriptedServer) (message : Message) :
    (server.respond message).2.sent = server.sent + 1 := by
  unfold respond
  cases server.mishap? server.sent with
  | none => rfl
  | some mishap => rfl

/-- The server counts the messages that reach it; a refused call is none. -/
theorem sent_perform {α : Type} (server : ScriptedServer) (call : Call α) :
    (server.perform call).2.sent = server.sent + call.message?.toList.length := by
  cases call with
  | refused error => rfl
  | message m read => exact server.sent_respond m

end ScriptedServer

/-- The verdict on the restrictions of a request, and what a client sends by it. -/
structure RequestType.Judged (request : RequestType) (restrictions : Restrictions) : Prop where
  accepted : request.validate restrictions = .ok () ↔ request.Accepts restrictions
  refused : ∀ error,
    request.validate restrictions = .error error ↔ request.Refuses restrictions error
  /-- Restrictions with the same keys are accepted alike, in any order, with any repetitions and any
  values. -/
  alike : ∀ other : Restrictions, (∀ key, key ∈ other.keys ↔ key ∈ restrictions.keys) →
    (request.validate other = .ok () ↔ request.validate restrictions = .ok ())
  /-- What is accepted is handed over as one message. -/
  sent : request.validate restrictions = .ok () → ∀ (client : Client) (catalog : Option String),
    (client.discover request catalog restrictions).message? =
      some (client.discoverMessage request catalog restrictions) ∧
    ∀ server : ScriptedServer,
      (server.perform (client.discover request catalog restrictions)).2.sent = server.sent + 1
  /-- What is refused is not handed over, and the call ends with the verdict. -/
  unsent : ∀ error, request.validate restrictions = .error error →
    ∀ (client : Client) (catalog : Option String),
    (client.discover request catalog restrictions).message? = none ∧
    ∀ server : ScriptedServer,
      server.perform (client.discover request catalog restrictions) = (.error error, server)

/-- The catalogue accepts restrictions by their keys and reports the first violation, and a client
sends what it accepts and nothing else. -/
theorem RequestType.restrictions_judged (request : RequestType) (restrictions : Restrictions) :
    request.Judged restrictions where
  accepted := validate_eq_ok_iff
  refused error := validate_eq_error_iff
  alike other h := by
    rw [validate_eq_ok_iff, validate_eq_ok_iff]
    exact Accepts.congr h
  sent h client catalog := by
    have hmessage : (client.discover request catalog restrictions).message? =
        some (client.discoverMessage request catalog restrictions) := by
      rw [Client.discover_of_valid h]
      rfl
    refine ⟨hmessage, fun server => ?_⟩
    rw [ScriptedServer.sent_perform, hmessage]
    rfl
  unsent error h client catalog := by
    rw [Client.discover_of_invalid h]
    exact ⟨rfl, fun server => rfl⟩

end CubeClient
