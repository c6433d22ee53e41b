import CubeClient.Proofs.Text.Truncation
import CubeClient.Proofs.Transport.SessionCookies

/-!
# What errors keep of bodies

A response that is neither a success nor carries a fault becomes an error, with its status and a
piece of its body. The body may be any bytes. It is read as text first, with replacements that may
make it longer than it was, and of this text the error keeps the longest front that the limit allows
(`errors_keep_excerpts`).
-/

namespace CubeClient

open CubeClient.Text

namespace HttpResponse

theorem isAnswer_iff {response : HttpResponse} :
    response.isAnswer = true ↔
      (200 ≤ response.status ∧ response.status < 300) ∨ response.status = 500 := by
  simp [isAnswer]

/-- A complete response that is no answer is an error with an excerpt of its body. -/
theorem reply_of_not_answer {response : HttpResponse} (hcomplete : response.complete = true)
    (hsuccess : ¬ (200 ≤ response.status ∧ response.status < 300))
    (hfault : response.status ≠ 500) :
    response.reply = .error (.httpStatus response.status (excerpt response.body)) := by
  have hanswer : ¬ response.isAnswer = true := by
    rw [isAnswer_iff]
    exact not_or.mpr ⟨hsuccess, hfault⟩
  simp only [reply, hcomplete, Bool.not_true, Bool.false_eq_true, if_false, if_neg hanswer]

end HttpResponse

/-- The reply to an exchange is that of the response that arrives. -/
theorem HttpSession.exchange_of_response? {s : HttpSession} {x : HttpExchange}
    {response : HttpResponse} (h : s.response? x = some (x.server, response)) :
    (s.exchange x.server x.now x.message x.network).1 = response.reply := by
  rw [exchange_eq]
  unfold response? at h
  cases hsent : s.sent? x with
  | none => simp [hsent] at h
  | some request =>
    cases hnetwork : x.network request with
    | unanswered => simp [hsent, hnetwork] at h
    | stalled => simp [hsent, hnetwork] at h
    | answered response' =>
      simp only [hsent, Option.map_some, hnetwork, Option.some.injEq, Prod.mk.injEq, true_and] at h
      rw [← h]
      simp only [receive, hnetwork]

/-- Whatever bytes arrive as the body of a response whose status is neither 500 nor one of success,
the error keeps the longest front of at most 512 bytes of the text that they are read as. If the
text has more bytes, the search for the end of this front does not run below zero: it starts at byte
512 and finds a place no earlier than byte 509. -/
theorem errors_keep_excerpts {s : HttpSession} {x : HttpExchange} {response : HttpResponse}
    (harrives : s.response? x = some (x.server, response)) (hcomplete : response.complete = true)
    (hsuccess : ¬ (200 ≤ response.status ∧ response.status < 300))
    (hfault : response.status ≠ 500) :
    ∃ kept, (s.exchange x.server x.now x.message x.network).1 =
        .error (.httpStatus response.status kept) ∧
      IsLongestFront (Utf8.decodeLossy response.body) 512 kept ∧
      (512 < (Utf8.decodeLossy response.body).utf8ByteSize →
        509 ≤ kept.utf8ByteSize ∧
          ∃ cut, cutFrom? (Utf8.decodeLossy response.body) 512 = some cut ∧
            cut.offset = kept.rawEndPos) := by
  have hreply := HttpSession.exchange_of_response? harrives
  rw [HttpResponse.reply_of_not_answer hcomplete hsuccess hfault] at hreply
  refine ⟨truncate (Utf8.decodeLossy response.body) 512, hreply, isLongestFront_truncate _ 512,
    fun hlong => ?_⟩
  obtain ⟨cut, hcut, hnear⟩ := exists_cutFrom? _ (Nat.le_of_lt hlong)
  have hends := (splits_truncate hlong hcut).offset_eq_rawEndPos
  rw [hends, String.byteIdx_rawEndPos] at hnear
  exact ⟨by omega, cut, hcut, hends⟩

/-- A response whose body is 200 bytes that are no characters. Read as text they are 600. -/
def unreadable : HttpResponse :=
  ⟨503, [], List.replicate 200 0xFF, true⟩

/-- An exchange in which it arrives. -/
def unreadableExchange : HttpExchange where
  server :=
    { url := ⟨"http", some (.ofHost (some (.domain "olap"))), .segments [""], none, none⟩
      user := none
      password := none }
  now := ⟨0, 0⟩
  message := ⟨.discover, []⟩
  network := fun _ => .answered unreadable

theorem errors_keep_excerpts_unreadable :
    (HttpSession.mk none 30).response? unreadableExchange =
      some (unreadableExchange.server, unreadable) ∧
    512 < (Utf8.decodeLossy unreadable.body).utf8ByteSize ∧
    ∃ kept, ((HttpSession.mk none 30).exchange unreadableExchange.server unreadableExchange.now
          unreadableExchange.message unreadableExchange.network).1 = .error (.httpStatus 503 kept) ∧
      IsLongestFront (Utf8.decodeLossy unreadable.body) 512 kept ∧ 509 ≤ kept.utf8ByteSize ∧
      ∃ cut, cutFrom? (Utf8.decodeLossy unreadable.body) 512 = some cut ∧
        cut.offset = kept.rawEndPos := by
  have harrives : (HttpSession.mk none 30).response? unreadableExchange =
      some (unreadableExchange.server, unreadable) := rfl
  have hread : Utf8.decodeLossyList unreadable.body = List.replicate 200 '\uFFFD' := by
    decide +kernel
  have hlong : 512 < (Utf8.decodeLossy unreadable.body).utf8ByteSize := by
    rw [Utf8.decodeLossy, hread]
    decide +kernel
  obtain ⟨kept, hreply, hkept, hcut⟩ := errors_keep_excerpts harrives rfl (by decide) (by decide)
  exact ⟨harrives, hlong, kept, hreply, hkept, hcut hlong⟩

end CubeClient
