import Mathlib.Data.List.Basic
import Gatehouse.Proofs.Registration.Replies
import Gatehouse.Registration.Records

/-!
# The calls of a fetch

How many calls a fetch makes is settled by what comes of them: it goes on while it is told that
there is no record, and stops at the first call of which something else comes.  So a fetch is told
by a list, the replies to its calls, and that list is all that a backend can do to it: two backends
that reply alike lead to the same result and are asked the same.

* `run_fetch` — a fetch in closed form, by induction on the endpoints: its result, and what it
  writes down.
* `view_eventsOfFetch` — what that shows in any view of the trace, call by call.
* `fetch_eq_replies` — the result and the calls of a fetch, from the replies.
* `Records.replies` — the replies of some records, for which neither time nor earlier calls matter;
  `Backend.AnswersFrom.replies_eq` says when they are those of a backend.
-/

set_option autoImplicit false

namespace Gatehouse
namespace Registration

variable {backend : Backend} {userId : String} {sources : List Endpoint} {before : List Call}
  {limit : Nat}

/-! ## Replies -/

/-- What comes of the calls of a fetch, one after the other, up to the first that settles it. -/
def Backend.replies (backend : Backend) (userId : String) :
    List Endpoint → List Call → Nat → List Reply
  | [], _, _ => []
  | e :: sources, before, limit =>
    match (backend.answer before ⟨e, userId⟩).reply limit with
    | .noRecord =>
      .noRecord :: backend.replies userId sources (before ++ [⟨e, userId⟩])
        (limit - (backend.answer before ⟨e, userId⟩).time)
    | reply => [reply]

/-- The result of a fetch that ends with the last of some replies, if it has one. -/
def Reply.settle (replies : List Reply) : Option Result :=
  (replies.getLast?.getD .noRecord).result?

/-- The first calls of a fetch. -/
def callsFor (userId : String) (sources : List Endpoint) (count : Nat) : List Call :=
  (sources.take count).map fun e => ⟨e, userId⟩

theorem Backend.replies_of_noRecord {e : Endpoint}
    (h : (backend.answer before ⟨e, userId⟩).reply limit = .noRecord) :
    backend.replies userId (e :: sources) before limit =
      .noRecord :: backend.replies userId sources (before ++ [⟨e, userId⟩])
        (limit - (backend.answer before ⟨e, userId⟩).time) := by
  rw [replies, h]

theorem Backend.replies_of_settled {e : Endpoint}
    (h : (backend.answer before ⟨e, userId⟩).reply limit ≠ .noRecord) :
    backend.replies userId (e :: sources) before limit =
      [(backend.answer before ⟨e, userId⟩).reply limit] := by
  rw [replies]
  split
  · next hnone => exact absurd hnone h
  · rfl

theorem Reply.settle_cons_noRecord (replies : List Reply) :
    settle (.noRecord :: replies) = settle replies := by
  cases replies with
  | nil => rfl
  | cons reply replies => rw [settle, settle, List.getLast?_cons_cons]

theorem length_callsFor {count : Nat} (userId : String) (h : count ≤ sources.length) :
    (callsFor userId sources count).length = count := by
  rw [callsFor, List.length_map, List.length_take_of_le h]

/-- Not more comes of the calls of a fetch than there are endpoints. -/
theorem length_replies_le (backend : Backend) (userId : String) (sources : List Endpoint) :
    ∀ (before : List Call) (limit : Nat),
      (backend.replies userId sources before limit).length ≤ sources.length := by
  induction sources with
  | nil => exact fun _ _ => Nat.le_refl 0
  | cons e sources ih =>
    intro before limit
    by_cases hnone : (backend.answer before ⟨e, userId⟩).reply limit = .noRecord
    · rw [Backend.replies_of_noRecord hnone]
      exact Nat.succ_le_succ (ih _ _)
    · rw [Backend.replies_of_settled hnone]
      exact Nat.succ_le_succ (Nat.zero_le sources.length)

/-! ## What is written down -/

/-- What a fetch adds to a trace. -/
def Backend.eventsOfFetch (backend : Backend) (userId : String) :
    List Endpoint → List Call → Nat → List Event
  | [], _, _ => []
  | e :: sources, before, limit =>
    backend.eventsOfCall before ⟨e, userId⟩ limit ++
      match (backend.answer before ⟨e, userId⟩).reply limit with
      | .noRecord =>
        backend.eventsOfFetch userId sources (before ++ [⟨e, userId⟩])
          (limit - (backend.answer before ⟨e, userId⟩).time)
      | _ => []

theorem Backend.eventsOfFetch_of_noRecord {e : Endpoint}
    (h : (backend.answer before ⟨e, userId⟩).reply limit = .noRecord) :
    backend.eventsOfFetch userId (e :: sources) before limit =
      backend.eventsOfCall before ⟨e, userId⟩ limit ++
        backend.eventsOfFetch userId sources (before ++ [⟨e, userId⟩])
          (limit - (backend.answer before ⟨e, userId⟩).time) := by
  rw [eventsOfFetch, h]

theorem Backend.eventsOfFetch_of_settled {e : Endpoint}
    (h : (backend.answer before ⟨e, userId⟩).reply limit ≠ .noRecord) :
    backend.eventsOfFetch userId (e :: sources) before limit =
      backend.eventsOfCall before ⟨e, userId⟩ limit := by
  rw [eventsOfFetch]
  split
  · next hnone => exact absurd hnone h
  · exact List.append_nil _

/-- **A fetch in closed form:** the last of its replies is its result. -/
theorem run_fetch (backend : Backend) (userId : String) (sources : List Endpoint) :
    ∀ (limit : Nat) (t : Trace),
      (fetch backend userId sources (some limit)).run t =
        (Reply.settle (backend.replies userId sources t.asked limit),
          t.append (backend.eventsOfFetch userId sources t.asked limit)) := by
  induction sources with
  | nil =>
    intro limit t
    rw [Backend.eventsOfFetch, Trace.append_nil]
    rfl
  | cons e sources ih =>
    intro limit t
    simp only [fetch, StateT.run_bind, run_ask_some]
    by_cases hnone : (backend.answer t.asked ⟨e, userId⟩).reply limit = .noRecord
    · -- the next source is asked after one call more, in the time that is left
      rw [Backend.replies_of_noRecord hnone, Backend.eventsOfFetch_of_noRecord hnone,
        Reply.settle_cons_noRecord, hnone]
      refine (ih _ _).trans ?_
      rw [Trace.asked_append, asked_eventsOfCall, Trace.append_append]
    · rw [Backend.replies_of_settled hnone, Backend.eventsOfFetch_of_settled hnone]
      cases hreply : (backend.answer t.asked ⟨e, userId⟩).reply limit with
      | noRecord => exact absurd hreply hnone
      | record | failure | silence => rfl

/-- **What a fetch shows in a view of the trace,** call by call, if the view grows as events are
added and shows of a call what depends on its reply only. -/
theorem view_eventsOfFetch {α : Type} (view : Trace → List α)
    (happend : ∀ t events, view (t.append events) = view t ++ view ⟨events⟩) (hnil : view {} = [])
    (shown : Call → Reply → List α)
    (hcall : ∀ before call limit, view ⟨backend.eventsOfCall before call limit⟩ =
      shown call ((backend.answer before call).reply limit)) (userId : String)
    (sources : List Endpoint) : ∀ (before : List Call) (limit : Nat),
      view ⟨backend.eventsOfFetch userId sources before limit⟩ =
        ((callsFor userId sources (backend.replies userId sources before limit).length).zip
          (backend.replies userId sources before limit)).flatMap fun p => shown p.1 p.2 := by
  induction sources with
  | nil => exact fun _ _ => hnil
  | cons e sources ih =>
    intro before limit
    by_cases hnone : (backend.answer before ⟨e, userId⟩).reply limit = .noRecord
    · rw [Backend.eventsOfFetch_of_noRecord hnone, Backend.replies_of_noRecord hnone]
      refine (happend ⟨backend.eventsOfCall before ⟨e, userId⟩ limit⟩ _).trans ?_
      rw [hcall, ih, hnone]
      rfl
    · rw [Backend.eventsOfFetch_of_settled hnone, Backend.replies_of_settled hnone, hcall]
      exact (List.append_nil _).symm

/-- **A fetch is told by its replies:** the last one is its result, and it makes one call for
each. -/
theorem fetch_eq_replies (backend : Backend) (userId : String) (sources : List Endpoint)
    (limit : Nat) (t : Trace) :
    ∃ events, (fetch backend userId sources (some limit)).run t =
        (Reply.settle (backend.replies userId sources t.asked limit), t.append events) ∧
      Trace.asked ⟨events⟩ =
        callsFor userId sources (backend.replies userId sources t.asked limit).length ∧
      Trace.forwarded ⟨events⟩ = [] ∧
      (.silence ∉ backend.replies userId sources t.asked limit →
        Trace.answered ⟨events⟩ = Trace.asked ⟨events⟩) := by
  have hlength := length_callsFor userId (length_replies_le backend userId sources t.asked limit)
  have hasked := view_eventsOfFetch Trace.asked Trace.asked_append rfl (fun call _ => [call])
    (asked_eventsOfCall backend) userId sources t.asked limit
  refine ⟨_, run_fetch backend userId sources limit t, ?_, ?_, fun hin => ?_⟩
  · rw [hasked, ← List.map_eq_flatMap, List.map_fst_zip (Nat.le_of_eq hlength)]
  · rw [view_eventsOfFetch Trace.forwarded Trace.forwarded_append rfl (fun _ _ => [])
      (forwarded_eventsOfCall backend)]
    exact List.flatMap_eq_nil_iff.2 fun _ _ => rfl
  · rw [hasked, view_eventsOfFetch Trace.answered Trace.answered_append rfl
      (fun call reply => if reply = .silence then [] else [call]) (answered_eventsOfCall backend)]
    refine List.flatMap_congr fun p hp => if_neg fun hsilent => hin ?_
    rw [← hsilent]
    exact (List.of_mem_zip hp).2

/-! ## Backends that know some records -/

namespace Records

variable {records : Records}

/-- What comes of the calls of a fetch if they are answered from some records, and in time. -/
def replies (records : Records) (userId : String) : List Endpoint → List Reply
  | [] => []
  | e :: sources =>
    match Reply.ofResult (records.lookup ⟨e, userId⟩) with
    | .noRecord => .noRecord :: records.replies userId sources
    | reply => [reply]

theorem replies_of_noRecord {e : Endpoint} (h : records.lookup ⟨e, userId⟩ = .ok none)
    (sources : List Endpoint) :
    records.replies userId (e :: sources) = .noRecord :: records.replies userId sources := by
  rw [replies, h]
  rfl

theorem replies_of_settled {e : Endpoint}
    (h : Reply.ofResult (records.lookup ⟨e, userId⟩) ≠ .noRecord) (sources : List Endpoint) :
    records.replies userId (e :: sources) = [.ofResult (records.lookup ⟨e, userId⟩)] := by
  rw [replies]
  split
  · next hnone => exact absurd hnone h
  · rfl

/-- The endpoints that a fetch asks about a user whose records these are. -/
def askedAt (records : Records) (userId : String) (sources : List Endpoint) : List Endpoint :=
  sources.take (records.replies userId sources).length

theorem silence_notMem_replies (records : Records) (userId : String) (sources : List Endpoint) :
    .silence ∉ records.replies userId sources := by
  induction sources with
  | nil => exact List.not_mem_nil
  | cons e sources ih =>
    rw [replies]
    rcases records.lookup ⟨e, userId⟩ with error | _ | facts
    · simp [Reply.ofResult]
    · simpa [Reply.ofResult] using ih
    · simp [Reply.ofResult]

end Records

/-- A number of milliseconds for each call, given the calls before. -/
abbrev Pace := List Call → Call → Nat

/-- The milliseconds for calls at some endpoints, one after the other. -/
def Pace.total (pace : Pace) (userId : String) : List Call → List Endpoint → Nat
  | _, [] => 0
  | before, e :: sources =>
    pace before ⟨e, userId⟩ + pace.total userId (before ++ [⟨e, userId⟩]) sources

/-- A backend answers about a user what some records say, at a given pace at most. -/
def Backend.AnswersFrom (backend : Backend) (records : Records) (userId : String) (pace : Pace) :
    Prop :=
  ∀ e before, (backend.answer before ⟨e, userId⟩).result = records.lookup ⟨e, userId⟩ ∧
    ∃ time ≤ pace before ⟨e, userId⟩, (backend.answer before ⟨e, userId⟩).after = some time

/-- **If there is time for the calls that are made, the replies are those of the records.** -/
theorem Backend.AnswersFrom.replies_eq {records : Records} {pace : Pace}
    (h : backend.AnswersFrom records userId pace) :
    ∀ {sources : List Endpoint} {limit : Nat} {before : List Call},
      pace.total userId before (records.askedAt userId sources) ≤ limit →
        backend.replies userId sources before limit = records.replies userId sources := by
  intro sources
  induction sources with
  | nil =>
    intro limit before _
    rfl
  | cons e sources ih =>
    intro limit before hlimit
    obtain ⟨hresult, time, htime, hafter⟩ := h e before
    have hreply (hin : time ≤ limit) : (backend.answer before ⟨e, userId⟩).reply limit =
        .ofResult (records.lookup ⟨e, userId⟩) := by
      simp only [Answer.reply, hafter, if_pos hin, hresult]
    by_cases hnone : records.lookup ⟨e, userId⟩ = .ok none
    · have hmore := Records.replies_of_noRecord hnone sources
      simp only [Records.askedAt, hmore, List.length_cons, List.take_succ_cons,
        Pace.total] at hlimit
      have hfirst := hreply (by omega)
      rw [hnone] at hfirst
      rw [hmore, Backend.replies_of_noRecord hfirst, ih ?_]
      simp only [Records.askedAt, Answer.time, hafter, Option.getD_some]
      omega
    · have hsettled : Reply.ofResult (records.lookup ⟨e, userId⟩) ≠ .noRecord := by
        rcases hlookup : records.lookup ⟨e, userId⟩ with error | _ | facts
        · exact Reply.noConfusion
        · exact absurd hlookup hnone
        · exact Reply.noConfusion
      have hlast := Records.replies_of_settled hsettled sources
      simp only [Records.askedAt, hlast, List.length_singleton, List.take_succ_cons,
        Pace.total] at hlimit
      have hfirst := hreply (by omega)
      rw [hlast, Backend.replies_of_settled (by rwa [hfirst]), hfirst]

/-- Calls that take no time take none together. -/
theorem Pace.total_zero (userId : String) (sources : List Endpoint) :
    ∀ before, Pace.total (fun _ _ => 0) userId before sources = 0 := by
  induction sources with
  | nil => exact fun before => rfl
  | cons e sources ih => exact fun before => (Nat.zero_add _).trans (ih _)

/-- Records at hand that are looked at without delay. -/
def Records.IsPrompt (records : Records) : Prop :=
  ∀ e, records.delay e = .milliseconds 0

/-- Records at hand answer at once. -/
theorem Records.IsPrompt.answersFrom {records : Records} (h : records.IsPrompt) (userId : String) :
    records.backend.AnswersFrom records userId fun _ _ => 0 := by
  intro e before
  refine ⟨rfl, 0, Nat.le_refl 0, ?_⟩
  show (records.delay e).time? = some 0
  rw [h e]
  rfl

end Registration
end Gatehouse
