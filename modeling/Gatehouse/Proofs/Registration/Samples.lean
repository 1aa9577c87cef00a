import Gatehouse.Proofs.Registration.OverNetwork
import Gatehouse.Proofs.Telemetry.Counting

/-!
# Samples of fetches

Each call that the backend answers is timed, and the time is kept as a *sample* under two labels:
the endpoint, and whether the call succeeded.  The sample is taken when the answer is there; so a
call of which nothing comes in time is not only not answered but not sampled either.

* `Trace.samples`, `Registry.length_durations` — the labels of the samples in a trace, and that a
  registry shows as many under each as there are.
* `samplesOf` — the samples of some calls, from what comes of them.
* `samples_fetch` — those of a fetch are the samples of its calls.
* `map_samplesOf_eq_iff` — there is one for each call just if something comes of each in time.
* `Remote.silence_notMem_replies` — something does if there is time for all calls.
-/

set_option autoImplicit false

namespace Gatehouse

/-! ## Samples of a trace -/

/-- The labels of the sample that a measurement is, if it is about the backend. -/
def Measurement.labels? : Measurement → Option (String × String)
  | .fetch endpoint succeeded _ => some (endpoint, if succeeded then "ok" else "error")
  | _ => none

namespace Trace

/-- The labels of the samples of a trace, in order. -/
def samples (t : Trace) : List (String × String) :=
  t.measurements.filterMap Measurement.labels?

@[simp] theorem samples_append (t : Trace) (events : List Event) :
    (t.append events).samples = t.samples ++ samples ⟨events⟩ := by
  simp [samples]

/-- Remarks that are not about the backend add no samples. -/
theorem Remarked.samples {t t' : Trace} {ms : List Measurement} (h : t.Remarked t' ms)
    (hms : ∀ m ∈ ms, m.isFetch = false) : t'.samples = t.samples := by
  obtain ⟨events, rfl, -, hmeasured⟩ := h
  have hnone : Trace.samples ⟨events⟩ = [] := by
    rw [Trace.samples, hmeasured, List.filterMap_eq_nil_iff]
    intro m hm
    cases m with
    | fetch => cases hms _ hm
    | decision | failSafe | entered | left => rfl
  rw [samples_append, hnone, List.append_nil]

end Trace

/-- **Under each pair of labels a registry shows as many samples as have been taken.** -/
theorem Registry.length_durations (bounds : List Float) (t : Trace) (key : String × String) :
    ((Registry.mk bounds t.measurements).durations key).length = t.samples.count key := by
  have hlabels : (Registry.mk bounds t.measurements).fetches.map Prod.fst = t.samples := by
    rw [fetches, Trace.samples, List.map_filterMap]
    refine List.filterMap_congr fun m _ => ?_
    cases m with
    | fetch | decision | failSafe | entered | left => rfl
  rw [durations, List.length_filterMap_eq_countP, ← hlabels, List.count, List.countP_map]
  refine List.countP_congr fun f _ => ?_
  by_cases hkey : f.1 = key <;> simp [hkey]

namespace Registration

variable {backend : Backend} {userId : String}

/-! ## Samples of calls -/

/-- The second label of the sample of a call, from what comes of the call, if anything does in
time. -/
def Reply.label? : Reply → Option String
  | .record _ | .noRecord => some "ok"
  | .failure _ => some "error"
  | .silence => none

/-- The labels of the samples of some calls, from what comes of each: the endpoint, and "ok" if the
backend says that there is a record or that there is none. -/
def samplesOf (calls : List Call) (replies : List Reply) : List (String × String) :=
  (calls.zip replies).filterMap fun p =>
    p.2.label?.map fun label => (Vocabulary.word p.1.endpoint, label)

theorem samplesOf_cons_silence (call : Call) (calls : List Call) (replies : List Reply) :
    samplesOf (call :: calls) (.silence :: replies) = samplesOf calls replies :=
  rfl

/-- **There is a sample for each call just if something comes of each in time.** -/
theorem map_samplesOf_eq_iff {calls : List Call} {replies : List Reply}
    (h : calls.length = replies.length) :
    (samplesOf calls replies).map Prod.fst = calls.map (fun call => Vocabulary.word call.endpoint) ↔
      .silence ∉ replies := by
  have hlength : ∀ (calls : List Call) (replies : List Reply),
      (samplesOf calls replies).length ≤ calls.length := fun calls replies =>
    Nat.le_trans (List.length_filterMap_le _ _) (by rw [List.length_zip]; exact Nat.min_le_left _ _)
  induction calls generalizing replies with
  | nil =>
    obtain rfl := List.length_eq_zero_iff.1 h.symm
    exact iff_of_true rfl List.not_mem_nil
  | cons call calls ih =>
    obtain ⟨reply, replies, rfl⟩ := List.exists_cons_of_length_eq_add_one h.symm
    have hrest := ih (Nat.succ.inj h)
    cases reply with
    | silence =>
      -- one sample at least is missing
      refine iff_of_false (fun hmap => ?_) fun hsilent => hsilent List.mem_cons_self
      have hfewer := congrArg List.length hmap
      rw [samplesOf_cons_silence, List.length_map, List.length_map, List.length_cons] at hfewer
      exact absurd (hlength calls replies) (by omega)
    | record | noRecord | failure =>
      refine Iff.trans ?_ (hrest.trans ?_)
      · simp [samplesOf, Reply.label?]
      · simp

/-! ## Samples of a fetch -/

/-- One sample is taken of an answer, under the endpoint and whether the call succeeded. -/
def Answer.IsSampled (answer : Answer) (endpoint : Endpoint) : Prop :=
  Trace.samples ⟨answer.events⟩ =
    [(Vocabulary.word endpoint, if answer.result.toBool then "ok" else "error")]

/-- A backend takes one sample of each of its answers. -/
def Backend.Samples (backend : Backend) : Prop :=
  ∀ before call, (backend.answer before call).IsSampled call.endpoint

/-- One sample is taken of a call of which something comes in time. -/
theorem samples_eventsOfCall (h : backend.Samples) (before : List Call) (call : Call)
    (limit : Nat) :
    Trace.samples ⟨backend.eventsOfCall before call limit⟩ =
      (((backend.answer before call).reply limit).label?.map fun label =>
        (Vocabulary.word call.endpoint, label)).toList := by
  by_cases hsilent : (backend.answer before call).reply limit = .silence
  · rw [Backend.eventsOfCall_of_silence hsilent, hsilent]
    rfl
  · have hsampled := h before call
    rw [Answer.IsSampled] at hsampled
    rw [Backend.eventsOfCall_of_reply hsilent, Answer.reply_of_ne_silence hsilent]
    refine Eq.trans hsampled ?_
    rcases (backend.answer before call).result with error | _ | facts <;> rfl

/-- **The samples of a fetch are those of its calls.** -/
theorem samples_fetch (h : backend.Samples) (userId : String) (sources : List Endpoint)
    (limit : Nat) (t : Trace) :
    ((fetch backend userId sources (some limit)).run t).2.samples = t.samples ++
      samplesOf (callsFor userId sources (backend.replies userId sources t.asked limit).length)
        (backend.replies userId sources t.asked limit) := by
  have hsamples := view_eventsOfFetch Trace.samples Trace.samples_append rfl
    (fun call reply =>
      (reply.label?.map fun label => (Vocabulary.word call.endpoint, label)).toList)
    (samples_eventsOfCall h) userId sources t.asked limit
  rw [run_fetch, Trace.samples_append, hsamples, samplesOf, List.filterMap_eq_flatMap_toList]

/-! ## The other server -/

namespace Remote

/-- An answer is there by the time limit of the call, if only that nothing has come. -/
theorem exists_after (r : Remote) (before : List Call) (call : Call) :
    ∃ time ≤ r.timeout, (r.backend.answer before call).after = some time := by
  obtain ⟨⟨result, time⟩, htime, hanswer⟩ := r.exists_answer_eq before call
  refine ⟨time, htime, ?_⟩
  show (r.answer before call).after = some time
  rw [hanswer]
  cases result with
  | error | ok => rfl

theorem samples_backend (r : Remote) : r.backend.Samples := by
  intro before call
  obtain ⟨⟨result, time⟩, -, hanswer⟩ := r.exists_answer_eq before call
  show (r.answer before call).IsSampled call.endpoint
  rw [hanswer]
  cases result with
  | error | ok => rfl

/-- **Something comes of each call in time if there is time for all of them.** -/
theorem silence_notMem_replies (r : Remote) (userId : String) (sources : List Endpoint) :
    ∀ (before : List Call) (limit : Nat), sources.length * r.timeout ≤ limit →
      .silence ∉ r.backend.replies userId sources before limit := by
  induction sources with
  | nil => exact fun _ _ _ => List.not_mem_nil
  | cons e sources ih =>
    intro before limit htime
    rw [List.length_cons, Nat.succ_mul] at htime
    obtain ⟨time, hlimit, hafter⟩ := r.exists_after before ⟨e, userId⟩
    have hreply : (r.backend.answer before ⟨e, userId⟩).reply limit =
        .ofResult (r.backend.answer before ⟨e, userId⟩).result := by
      rw [Answer.reply, hafter]
      exact if_pos (by omega)
    have hspent : (r.backend.answer before ⟨e, userId⟩).time = time := by
      rw [Answer.time, hafter]
      rfl
    by_cases hnone : (r.backend.answer before ⟨e, userId⟩).reply limit = .noRecord
    · rw [Backend.replies_of_noRecord hnone, hspent, List.mem_cons, not_or]
      exact ⟨Reply.noConfusion, ih _ _ (by omega)⟩
    · rw [Backend.replies_of_settled hnone, hreply, List.mem_singleton]
      rcases (r.backend.answer before ⟨e, userId⟩).result with error | _ | facts
      all_goals exact Reply.noConfusion

end Remote
end Registration
end Gatehouse
