import CubeClient.Deferred.Rows
import CubeClient.Proofs.Deferred.Ancestry

/-!
# What programs may send and read

A bound on what the programs of the collections do bounds what their readers do: whatever a program
is confined to, every phase that comes of it is confined to. A program that fills a collection from
rows sends its request, and is otherwise confined to what the handler of the rows does.
-/

namespace CubeClient.Deferred

variable {κ ι : Type} [Named ι] {sends : Message → Prop} {reads : κ → Prop}

namespace Program

variable {α β : Type}

/-- All messages that a program may send, and all collections that it may read, are among those
given. -/
def Confined (sends : Message → Prop) (reads : κ → Prop) : Program κ ι α → Prop
  | .done _ => True
  | .send message next => sends message ∧ ∀ reply, (next reply).Confined sends reads
  | .owned _ next => ∀ answer, (next answer).Confined sends reads
  | .read key next => reads key ∧ ∀ result, (next result).Confined sends reads
  | .readAll keys next => (∀ key ∈ keys, reads key) ∧ ∀ result, (next result).Confined sends reads

namespace Confined

theorem bind {f : α → Program κ ι β} (hf : ∀ x, (f x).Confined sends reads) :
    ∀ {program : Program κ ι α}, program.Confined sends reads →
      (program.bind f).Confined sends reads := by
  intro program
  induction program with
  | done result => exact fun _ => hf result
  | send message next ih => exact fun h => ⟨h.1, fun reply => ih reply (h.2 reply)⟩
  | owned key next ih => exact fun h answer => ih answer (h answer)
  | read key next ih => exact fun h => ⟨h.1, fun result => ih result (h.2 result)⟩
  | readAll keys next ih => exact fun h => ⟨h.1, fun result => ih result (h.2 result)⟩

theorem all (program : Program κ ι α) : program.Confined (fun _ => True) fun _ => True := by
  induction program with
  | done result => trivial
  | send message next ih => exact ⟨trivial, ih⟩
  | owned key next ih => exact ih
  | read key next ih => exact ⟨trivial, ih⟩
  | readAll keys next ih => exact ⟨fun _ _ => trivial, ih⟩

/-- What a confined program reads next is among what it may read. -/
theorem readsNow {program : Program κ ι α} {key : κ} (h : program.Confined sends reads)
    (hreads : program.ReadsNow key) : reads key := by
  cases program with
  | read key' next => exact hreads ▸ h.1
  | readAll keys next => exact h.1 key hreads
  | _ => cases hreads

end Confined

end Program

/-! ## Filling a collection from rows -/

section Rows

variable {label : String} {handler : RowHandler κ ι}

/-- Filling from rows does no more than the handler of the rows. -/
theorem confined_fillFrom (h : ∀ row list, (handler row list).Confined sends reads)
    (rows : List Xml.Element) (list : NamedList ι) :
    (fillFrom label handler rows list).Confined sends reads := by
  induction rows generalizing list with
  | nil => trivial
  | cons row rows ih =>
    refine Program.Confined.bind (fun outcome => ?_) (h row list)
    rcases outcome with error | none | item
    · trivial
    · exact ih list
    · cases hinsert : list.insert? item with
      | none => simp only [hinsert, Program.Confined]
      | some longer =>
        simp only [hinsert]
        exact ih longer

theorem confined_answer (h : ∀ row list, (handler row list).Confined sends reads)
    (answer : Except ClientError (List Xml.Element)) :
    (match answer with
      | .error error => .done (.error error)
      | .ok rows => fillFrom label handler rows .empty : Population κ ι).Confined sends reads := by
  cases answer with
  | error error => trivial
  | ok rows => exact confined_fillFrom h rows .empty

/-- A collection is confined to what its call sends and what its handler does. -/
theorem confined_populate (h : ∀ row list, (handler row list).Confined sends reads)
    {call : Call (List Xml.Element)}
    (hcall : ∀ message decode, call = .message message decode → sends message) :
    (populate label handler call).Confined sends reads := by
  refine Program.Confined.bind (confined_answer h) ?_
  cases call with
  | refused error => trivial
  | message message decode => exact ⟨hcall message decode rfl, fun _ => trivial⟩

end Rows

/-! ## Readers -/

/-- What is left of a reader's program is confined. -/
def Phase.Confined (sends : Message → Prop) (reads : κ → Prop) : Phase κ ι → Prop
  | .working _ program => program.Confined sends reads
  | .awaitingReply _ _ next => ∀ reply, (next reply).Confined sends reads
  | .awaitingRead _ _ next => ∀ result, (next result).Confined sends reads
  | .awaitingReads _ _ next => ∀ result, (next result).Confined sends reads
  | _ => True

namespace Config

variable {family : Family κ ι} {c d : Config κ ι} {i : Nat} {r : Reader κ ι} {phase : Phase κ ι}

/-- A shift of a confined reader leaves it confined, and sends only what it may. -/
theorem Shift.confined {new : List (Reader κ ι)} {messages : List Sent}
    (h : Shift family c i r phase new messages) (hr : r.phase.Confined sends reads) :
    phase.Confined sends reads ∧ ∀ s ∈ messages, sends s.message := by
  cases h with
  | send hp =>
    rw [hp] at hr
    exact ⟨hr.2, fun s hs => by rw [List.mem_singleton.mp hs]; exact hr.1⟩
  | owned hp => rw [hp] at hr; exact ⟨hr _, fun s hs => (List.not_mem_nil hs).elim⟩
  | read hp => rw [hp] at hr; exact ⟨hr.2, fun s hs => (List.not_mem_nil hs).elim⟩
  | readAll hp => rw [hp] at hr; exact ⟨hr.2, fun s hs => (List.not_mem_nil hs).elim⟩
  | reply hp => rw [hp] at hr; exact ⟨hr _, fun s hs => (List.not_mem_nil hs).elim⟩
  | result hp => rw [hp] at hr; exact ⟨hr _, fun s hs => (List.not_mem_nil hs).elim⟩
  | joined hp => rw [hp] at hr; exact ⟨hr _, fun s hs => (List.not_mem_nil hs).elim⟩
  | _ => exact ⟨trivial, fun s hs => (List.not_mem_nil hs).elim⟩

/-- A reader stays within what the program of its collection is confined to. -/
theorem Turn.confined (h : Turn family c d i r phase)
    (hprogram : (family.program r.key).Confined sends reads)
    (hr : r.phase.Confined sends reads) : phase.Confined sends reads := by
  cases h with
  | shift hshift => exact (hshift.confined hr).1
  | fill => exact hprogram
  | finish => trivial
  | fail hp => rw [hp] at hr; exact hr _
  | drop => trivial

end Config

end CubeClient.Deferred
