import Gatehouse.Proofs.Registration.Fetching

/-!
# Replies

A call to the backend comes to one of four things: a record, the answer that there is none, a
failure, or nothing in the time there was.  A `Reply` is one of these, and a fetch is told by the
replies to its calls: the first that is not "none" settles it, and each call has the time that the
calls before have left.

* `run_ask_some` — one call in closed form, by its reply; `eventsOfCall` is what it writes down.
* `fetch_cons` — the first reply settles a fetch, or the rest of the endpoints are asked.
* `fetch_singleton`, `fetch_current_pending` — the two fetches that the rule sets make.
-/

set_option autoImplicit false

namespace Gatehouse
namespace Registration

/-- What comes of a call. -/
inductive Reply where
  | record (facts : Facts)
  | noRecord
  | failure (error : BackendError)
  /-- No answer arrived in time. -/
  | silence
deriving DecidableEq

namespace Reply

/-- What an answer comes to that is in time. -/
def ofResult : Result → Reply
  | .ok (some facts) => .record facts
  | .ok none => .noRecord
  | .error error => .failure error

/-- The result of a fetch that ends with a reply, if it has one. -/
def result? : Reply → Option Result
  | .record facts => some (.ok (some facts))
  | .noRecord => some (.ok none)
  | .failure error => some (.error error)
  | .silence => none

/-- The reply that counts: the second one if the first is that there is no record. -/
def orElse : Reply → Reply → Reply
  | .noRecord, other => other
  | reply, _ => reply

theorem orElse_eq_noRecord_iff (reply other : Reply) :
    reply.orElse other = .noRecord ↔ reply = .noRecord ∧ other = .noRecord := by
  cases reply with
  | noRecord => simp [orElse]
  | record | failure | silence => simp [orElse]

end Reply

/-- What an answer comes to within some milliseconds. -/
def Answer.reply (answer : Answer) (limit : Nat) : Reply :=
  match answer.after with
  | none => .silence
  | some time => if time ≤ limit then .ofResult answer.result else .silence

/-- If something comes in time, it is the result. -/
theorem Answer.reply_of_ne_silence {answer : Answer} {limit : Nat}
    (h : answer.reply limit ≠ .silence) : answer.reply limit = .ofResult answer.result := by
  rw [reply] at h ⊢
  cases htime : answer.after with
  | none =>
    rw [htime] at h
    exact absurd rfl h
  | some time =>
    rw [htime] at h
    by_cases hlate : time ≤ limit
    · exact if_pos hlate
    · exact absurd (if_neg hlate) h

/-- The milliseconds that an answer took, if it came. -/
def Answer.time (answer : Answer) : Nat :=
  answer.after.getD 0

namespace Backend

/-- What the call for the current record of a user comes to, given the calls before. -/
def currentReply (backend : Backend) (before : List Call) (userId : String) (limit : Nat) : Reply :=
  (backend.answer before ⟨.current, userId⟩).reply limit

/-- What the call for the pending record comes to that follows the one for the current record, in
the time that is left. -/
def pendingReply (backend : Backend) (before : List Call) (userId : String) (limit : Nat) : Reply :=
  (backend.answer (before ++ [⟨.current, userId⟩]) ⟨.pending, userId⟩).reply
    (limit - (backend.answer before ⟨.current, userId⟩).time)

end Backend

variable {backend : Backend} {userId : String} {before : List Call} {limit : Nat}

/-! ## One call -/

/-- What a call adds to a trace: that it was made, and, if anything comes in time, that it was
answered and what the answer adds. -/
def Backend.eventsOfCall (backend : Backend) (before : List Call) (call : Call) (limit : Nat) :
    List Event :=
  match (backend.answer before call).reply limit with
  | .silence => [.asked call]
  | _ => .asked call :: .answered call :: (backend.answer before call).events

theorem Backend.eventsOfCall_of_silence {call : Call}
    (h : (backend.answer before call).reply limit = .silence) :
    backend.eventsOfCall before call limit = [.asked call] := by
  rw [eventsOfCall, h]

theorem Backend.eventsOfCall_of_reply {call : Call}
    (h : (backend.answer before call).reply limit ≠ .silence) :
    backend.eventsOfCall before call limit =
      .asked call :: .answered call :: (backend.answer before call).events := by
  rw [eventsOfCall]
  split
  · next hsilent => exact absurd hsilent h
  · rfl

/-- One call within a time limit, by its reply. -/
theorem run_ask_some (backend : Backend) (call : Call) (limit : Nat) (t : Trace) :
    (ask backend call (some limit)).run t =
      (((backend.answer t.asked call).reply limit).result?.map
          (·, some (limit - (backend.answer t.asked call).time)),
        t.append (backend.eventsOfCall t.asked call limit)) := by
  rw [run_ask, Backend.eventsOfCall, Answer.reply, Answer.time]
  cases (backend.answer t.asked call).after with
  | none => rfl
  | some time =>
    by_cases hlate : time ≤ limit
    · simp only [Option.bind_some, Budget.spend?, if_pos hlate, Option.getD_some]
      rcases (backend.answer t.asked call).result with error | _ | facts <;> rfl
    · simp only [Option.bind_some, Budget.spend?, if_neg hlate]
      rfl

/-- The calls of a call are itself, whatever comes of it. -/
theorem asked_eventsOfCall (backend : Backend) (before : List Call) (call : Call) (limit : Nat) :
    Trace.asked ⟨backend.eventsOfCall before call limit⟩ = [call] := by
  by_cases h : (backend.answer before call).reply limit = .silence
  · rw [Backend.eventsOfCall_of_silence h]
    rfl
  · rw [Backend.eventsOfCall_of_reply h]
    exact (views_answered call (backend.answer before call).isRemarks).1

theorem forwarded_eventsOfCall (backend : Backend) (before : List Call) (call : Call)
    (limit : Nat) :
    Trace.forwarded ⟨backend.eventsOfCall before call limit⟩ = [] := by
  by_cases h : (backend.answer before call).reply limit = .silence
  · rw [Backend.eventsOfCall_of_silence h]
    rfl
  · rw [Backend.eventsOfCall_of_reply h]
    exact (views_answered call (backend.answer before call).isRemarks).2.2

/-- A call is answered unless nothing comes of it in time. -/
theorem answered_eventsOfCall (backend : Backend) (before : List Call) (call : Call) (limit : Nat) :
    Trace.answered ⟨backend.eventsOfCall before call limit⟩ =
      if (backend.answer before call).reply limit = .silence then [] else [call] := by
  by_cases h : (backend.answer before call).reply limit = .silence
  · rw [Backend.eventsOfCall_of_silence h, if_pos h]
    rfl
  · rw [Backend.eventsOfCall_of_reply h, if_neg h]
    exact (views_answered call (backend.answer before call).isRemarks).2.1

/-! ## Fetches -/

/-- **The first reply settles a fetch,** unless it is that there is no record; then the rest is
asked in the time that is left. -/
theorem fetch_cons (backend : Backend) (userId : String) (e : Endpoint) (sources : List Endpoint)
    (limit : Nat) (t : Trace) :
    ∃ after, after.asked = t.asked ++ [⟨e, userId⟩] ∧
      ((fetch backend userId (e :: sources) (some limit)).run t).1 =
        match (backend.answer t.asked ⟨e, userId⟩).reply limit with
        | .noRecord =>
          ((fetch backend userId sources
            (some (limit - (backend.answer t.asked ⟨e, userId⟩).time))).run after).1
        | reply => reply.result? := by
  refine ⟨t.append (backend.eventsOfCall t.asked ⟨e, userId⟩ limit), ?_, ?_⟩
  · rw [Trace.asked_append, asked_eventsOfCall]
  · simp only [fetch, StateT.run_bind, run_ask_some]
    cases (backend.answer t.asked ⟨e, userId⟩).reply limit with
    | noRecord | record | failure | silence => rfl

/-- A fetch of one record ends with the reply about it. -/
theorem fetch_singleton (backend : Backend) (userId : String) (e : Endpoint) (limit : Nat)
    (t : Trace) :
    ((fetch backend userId [e] (some limit)).run t).1 =
      ((backend.answer t.asked ⟨e, userId⟩).reply limit).result? := by
  obtain ⟨after, -, hfetch⟩ := fetch_cons backend userId e [] limit t
  rw [hfetch]
  cases (backend.answer t.asked ⟨e, userId⟩).reply limit with
  | noRecord | record | failure | silence => rfl

/-- A fetch of the current and then the pending record ends with the reply that counts. -/
theorem fetch_current_pending (backend : Backend) (userId : String) (limit : Nat) (t : Trace) :
    ((fetch backend userId [.current, .pending] (some limit)).run t).1 =
      ((backend.currentReply t.asked userId limit).orElse
        (backend.pendingReply t.asked userId limit)).result? := by
  obtain ⟨after, hasked, hfetch⟩ := fetch_cons backend userId .current [.pending] limit t
  have hpending := fetch_singleton backend userId .pending
    (limit - (backend.answer t.asked ⟨.current, userId⟩).time) after
  rw [hasked] at hpending
  rw [hfetch, Backend.currentReply]
  cases (backend.answer t.asked ⟨.current, userId⟩).reply limit with
  | record | failure | silence => rfl
  | noRecord => exact hpending

end Registration
end Gatehouse
