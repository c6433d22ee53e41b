import CubeClient.Proofs.Deferred.Transition

/-!
# Reads that nobody disturbs

If collections are read one after the other and each reply arrives as soon as it is asked for, every
read takes the same six steps (`soloRead`), at the end of which its collection is filled.
-/

namespace CubeClient.Deferred

namespace Config

variable {κ ι : Type} [Named ι] {family : Family κ ι} {c : Config κ ι} {n : Nat} {key : κ}
  {message : Message} {next : Reply → Population κ ι} {reply : Reply} {items : NamedList ι}

/-- The read of a collection that is filled by one request, as the `n`th of such reads. -/
def soloRead (n : Nat) (key : κ) (reply : Reply) : List (Event κ) :=
  [.start key, .advance n, .advance n] ++ [.deliver n reply, .advance n, .advance n]

/-- There is no reply to a message that has not been sent. -/
theorem reply?_eq_none_of_forall {q : Nat} (h : ∀ entry ∈ c.replies, entry.1 < n) (hq : n ≤ q) :
    c.reply? q = none := by
  rw [reply?, Option.map_eq_none_iff, List.find?_eq_none]
  intro entry hentry heq
  have hlt := h entry hentry
  rw [eq_of_beq heq] at hlt
  omega

/-- Nothing has happened but some undisturbed reads. -/
structure Calm (c : Config κ ι) (n : Nat) : Prop where
  readers : c.readers.length = n
  sent : c.sent.length = n
  replies : ∀ entry ∈ c.replies, entry.1 < n

theorem Calm.initial : Calm (Config.initial : Config κ ι) 0 where
  readers := rfl
  sent := rfl
  replies _ h := (List.not_mem_nil h).elim

/-! ## The last reader -/

/-- One more reader, from outside all populations. -/
def withReader (c : Config κ ι) (key : κ) (phase : Phase κ ι) : Config κ ι :=
  { c with readers := c.readers ++ [⟨key, [], [], phase⟩] }

theorem getElem?_withReader (h : c.readers.length = n) (key : κ) (phase : Phase κ ι) :
    (c.withReader key phase).readers[n]? = some ⟨key, [], [], phase⟩ := by
  rw [withReader, ← h, List.getElem?_concat_length]

theorem setPhase_withReader (h : c.readers.length = n) (key : κ) (phase phase' : Phase κ ι) :
    (c.withReader key phase).setPhase n phase' = c.withReader key phase' := by
  have hlast (xs : List (Reader κ ι)) (x : Reader κ ι) (f : Reader κ ι → Reader κ ι) :
      (xs ++ [x]).modify xs.length f = xs ++ [f x] := by
    induction xs with
    | nil => rfl
    | cons y xs ih => exact congrArg (y :: ·) ih
  simp only [withReader, setPhase, ← h, hlast]

theorem Calm.reply?_eq_none (h : Calm c n) : c.reply? n = none :=
  reply?_eq_none_of_forall h.replies (Nat.le_refl n)

variable [DecidableEq κ]

/-- An attempt on a collection has been begun. -/
def begun (c : Config κ ι) (key : κ) : Config κ ι :=
  { c.setCell key ⟨.populating c.attempts.length, none⟩ with
    attempts := c.attempts ++ [key]
    running := c.attempts.length :: c.running }

/-- The first turn of a new reader begins an attempt, if the collection is empty. -/
theorem advance_entering (h : c.readers.length = n) (hcell : c.cells key = ⟨.empty, none⟩) :
    (c.withReader key .entering).advance family n =
      (c.begun key).withReader key (.working c.attempts.length (family.program key)) := by
  have hcell' : (c.withReader key .entering).cells key = ⟨.empty, none⟩ := hcell
  simp only [advance, getElem?_withReader h, enter, hcell']
  exact congrArg (fun d : Config κ ι => { d with
      attempts := c.attempts ++ [key], running := c.attempts.length :: c.running })
    (setPhase_withReader (c := c.setCell key ⟨.populating c.attempts.length, none⟩) h key _ _)

/-- A reader whose program sends a message sends it in its next turn. -/
theorem advance_send {a : Nat} (h : c.readers.length = n) :
    (c.withReader key (.working a (.send message next))).advance family n =
      { c with sent := c.sent ++ [(⟨a, message⟩ : Sent)] }.withReader key
        (.awaitingReply a c.sent.length next) := by
  simp only [advance, getElem?_withReader h, work, setPhase_withReader h]
  rfl

/-- A reader goes on with the reply that it waits for. -/
theorem advance_reply {a q : Nat} (h : c.readers.length = n) (hreply : c.reply? q = some reply) :
    (c.withReader key (.awaitingReply a q next)).advance family n =
      c.withReader key (.working a (next reply)) := by
  have hreply' : (c.withReader key (.awaitingReply a q next)).reply? q = some reply := hreply
  simp only [advance, getElem?_withReader h, hreply', setPhase_withReader h]

/-- A reader whose program is done ends its attempt. -/
theorem advance_done {a : Nat} {result : Except ClientError (NamedList ι)}
    (h : c.readers.length = n) :
    (c.withReader key (.working a (.done result))).advance family n =
      { c.setCell key (c.cellAfter key a result) with
        running := c.running.filter (· != a) }.withReader key
          (.finished (some a) (result.map fun items => ⟨a, items⟩)) := by
  simp only [advance, getElem?_withReader h, work, finish]
  exact congrArg (fun d : Config κ ι => { d with running := c.running.filter (· != a) })
    (setPhase_withReader (c := c.setCell key (c.cellAfter key a result)) h key _ _)

/-! ## The read -/

/-- A read of an empty collection sends the request of the collection. -/
theorem Calm.foldl_send (h : Calm c n) (hcell : c.cells key = ⟨.empty, none⟩)
    (hprogram : family.program key = .send message next) :
    [.start key, .advance n, .advance n].foldl (step family) c =
      { c.begun key with sent := c.sent ++ [(⟨c.attempts.length, message⟩ : Sent)] }.withReader key
        (.awaitingReply c.attempts.length n next) := by
  have henter : (c.start key).advance family n =
      (c.begun key).withReader key (.working c.attempts.length (.send message next)) :=
    hprogram ▸ advance_entering h.readers hcell
  simp only [List.foldl_cons, List.foldl_nil, step]
  rw [henter, advance_send (c := c.begun key) h.readers,
    show (c.begun key).sent.length = n from h.sent]
  rfl

/-- An undisturbed read fills its collection and leaves all others alone. -/
theorem Calm.foldl_soloRead (h : Calm c n) (hcell : c.cells key = ⟨.empty, none⟩)
    (hprogram : family.program key = .send message next) (hnext : next reply = .done (.ok items)) :
    Calm ((soloRead n key reply).foldl (step family) c) (n + 1) ∧
      ((soloRead n key reply).foldl (step family) c).cells = fun other =>
        if other = key then
          ⟨.populated ⟨c.attempts.length, items⟩, some ⟨c.attempts.length, items⟩⟩
        else c.cells other := by
  let asked : Config κ ι :=
    { c.begun key with sent := c.sent ++ [⟨c.attempts.length, message⟩] }
  let heard : Config κ ι := { asked with replies := c.replies ++ [(n, reply)] }
  have hask : [.start key, .advance n, .advance n].foldl (step family) c =
      asked.withReader key (.awaitingReply c.attempts.length n next) :=
    h.foldl_send hcell hprogram
  have hsent : n < asked.sent.length := by
    simp [asked, h.sent]
  obtain ⟨hdeliver, hreply⟩ := reply?_deliver reply hsent h.reply?_eq_none
  rw [hdeliver] at hreply
  have hhear : (heard.withReader key (.awaitingReply c.attempts.length n next)).advance family n =
      heard.withReader key (.working c.attempts.length (.done (.ok items))) :=
    hnext ▸ advance_reply h.readers hreply
  have hrun : (soloRead n key reply).foldl (step family) c =
      (heard.withReader key (.working c.attempts.length (.done (.ok items)))).advance family n := by
    have hq : n < (asked.withReader key
      (.awaitingReply c.attempts.length n next)).sent.length := hsent
    rw [soloRead, List.foldl_append, hask, ← hhear]
    simp only [List.foldl_cons, List.foldl_nil, step]
    rw [(reply?_deliver reply hq h.reply?_eq_none).1]
    rfl
  rw [hrun, advance_done (c := heard) h.readers]
  refine ⟨⟨?_, ?_, ?_⟩, ?_⟩
  · simp [withReader, setCell, heard, asked, begun, h.readers]
  · simp [withReader, setCell, heard, asked, begun, h.sent]
  · intro entry hentry
    rcases List.mem_append.mp hentry with hentry | hentry
    · exact Nat.lt_succ_of_lt (h.replies entry hentry)
    · obtain rfl := List.mem_singleton.mp hentry
      exact Nat.lt_succ_self n
  · funext other
    simp only [withReader, setCell, heard, asked, begun]
    split <;> rfl

/-- A read that is refused before anything is sent. -/
theorem Calm.foldl_refused {e : ClientError} (h : Calm c n)
    (hcell : c.cells key = ⟨.empty, none⟩) (hprogram : family.program key = .done (.error e)) :
    ([.start key, .advance n, .advance n].foldl (step family) c).readers[n]? =
      some ⟨key, [], [], .finished (some c.attempts.length) (.error e)⟩ := by
  have henter : (c.start key).advance family n =
      (c.begun key).withReader key (.working c.attempts.length (.done (.error e))) :=
    hprogram ▸ advance_entering h.readers hcell
  simp only [List.foldl_cons, List.foldl_nil, step]
  rw [henter, advance_done (c := c.begun key) h.readers]
  exact getElem?_withReader h.readers key _

end Config

end CubeClient.Deferred
