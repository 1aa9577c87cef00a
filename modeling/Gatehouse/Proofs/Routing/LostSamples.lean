import Gatehouse.Proofs.Registration.Samples
import Gatehouse.Proofs.Routing.Conservation

/-!
# Samples that are lost

Whoever reads how long the backend takes relies on it that every fetch is among the samples, the
slow ones above all.  A sample is taken when a call has come to its end, and the check of the rules
does not wait for that: it gives up when its own time is over, and the call that it has been waiting
for is then gone without a sample.

So the samples that a run adds are those of the calls of which something came in time, and there is
one for each call just if there was no call that the check gave up.

* `RuleCheck.samples_verdict` — the samples that the check of the rules adds are those of its calls.
* `Profile.asked_samples_start` — the calls of a run and the samples it adds, from the replies.
* `sampled_iff` — what a registry shows then of the calls to another server, and when it shows them
  all.
* `slow_fetch_lost` — an application with the time limits that go without saying that loses a
  sample.
-/

set_option autoImplicit false

namespace Gatehouse
namespace Routing

open Registration (Backend Call Remote Reply samplesOf)

variable {request : Request} {backend : Backend}

/-! ## The check of the rules -/

namespace RuleCheck

variable {check : RuleCheck}

/-- What comes of the calls about a caller, if the rules have to be checked. -/
def repliesFor (check : RuleCheck) (request : Request) (caller : Option Claims)
    (before : List Call) :
    List Reply :=
  match check.concerned? request caller with
  | none => []
  | some claims => check.replies claims.userId before

theorem length_calls (check : RuleCheck) (request : Request) (caller : Option Claims)
    (before : List Call) :
    (check.calls request caller before).length =
      (check.repliesFor request caller before).length := by
  rw [calls, repliesFor]
  cases check.concerned? request caller with
  | none => rfl
  | some claims =>
    exact Registration.length_callsFor claims.userId
      (Registration.length_replies_le check.backend claims.userId check.rules.sources before
        check.timeout)

/-- The samples that a check adds are those of its calls. -/
theorem samples_verdict (h : check.backend.Samples) (request : Request) (caller : Option Claims)
    (t : Trace) :
    (check.verdict request caller t).2.samples = t.samples ++
      samplesOf (check.calls request caller t.asked) (check.repliesFor request caller t.asked) := by
  rw [calls, repliesFor]
  cases hconcerned : check.concerned? request caller with
  | none =>
    rw [verdict_of_unconcerned hconcerned]
    exact (List.append_nil t.samples).symm
  | some claims =>
    have hfetch := Registration.samples_fetch h claims.userId check.rules.sources check.timeout t
    rw [verdict_of_concerned hconcerned]
    refine Eq.trans ?_ hfetch
    simp only [facts, StateT.run_bind]
    rcases (Registration.fetch check.backend claims.userId check.rules.sources
      (some check.timeout)).run t with ⟨_ | result, after⟩ <;> rfl

end RuleCheck

/-! ## Runs -/

namespace Profile

variable {profile : Profile} {resolver : Session.Resolver} {visit : Visit}

/-- What comes of the calls for a visit, given the calls before. -/
def replies (profile : Profile) (resolver : Session.Resolver) (backend : Backend) (visit : Visit)
    (before : List Call) : List Reply :=
  match profile.rules with
  | none => []
  | some rules =>
    (profile.ruleCheck backend rules).repliesFor visit.request (profile.caller? resolver visit)
      before

/-- **The calls of a run, and the samples that it adds,** from what comes of the calls. -/
theorem asked_samples_start (h : backend.Samples) (profile : Profile) (resolver : Session.Resolver)
    (visit : Visit) (trace : Trace) :
    let after :=
      ((profile.chain resolver backend visit.now).start visit.id trace visit.request).2.trace
    ∃ calls : List Call, after.asked = trace.asked ++ calls ∧
      calls.length = (profile.replies resolver backend visit trace.asked).length ∧
      after.samples =
        trace.samples ++ samplesOf calls (profile.replies resolver backend visit trace.asked) := by
  intro after
  obtain ⟨line, hafter⟩ :=
    Chain.trace_start (profile.chain resolver backend visit.now) visit.id trace
    visit.request
  obtain ⟨before, hbefore, hlast⟩ := profile.trace_handler resolver backend visit
    { context := { requestId := visit.id }, trace := trace.append [.measured .entered] } rfl
  have hasked : before.asked = trace.asked := by
    rw [← hbefore.alike.asked]
    simp [Trace.asked]
  have hsamples : before.samples = trace.samples := by
    rw [hbefore.samples fun m hm => absurd hm List.not_mem_nil]
    exact (Trace.samples_append trace _).trans (List.append_nil trace.samples)
  have hlastAsked : after.asked = (profile.verdict backend visit.request
      (profile.caller? resolver visit) before).2.asked := by
    refine (congrArg Trace.asked hafter).trans ?_
    rw [Trace.asked_append, ← hlast.alike.asked]
    exact List.append_nil _
  have hlastSamples : after.samples = (profile.verdict backend visit.request
      (profile.caller? resolver visit) before).2.samples := by
    refine (congrArg Trace.samples hafter).trans ?_
    rw [Trace.samples_append, hlast.samples fun m hm => isFetch_of_mem_measures hm]
    exact List.append_nil _
  rw [hlastAsked, hlastSamples, replies]
  cases hrules : profile.rules with
  | none =>
    rw [verdict, hrules]
    exact ⟨[], hasked.trans (List.append_nil _).symm, rfl, hsamples.trans (List.append_nil _).symm⟩
  | some rules =>
    have hcheck : (profile.ruleCheck backend rules).backend.Samples := h
    rw [verdict_of_rules hrules, RuleCheck.asked_verdict, RuleCheck.samples_verdict hcheck, hasked,
      hsamples]
    exact ⟨_, rfl, RuleCheck.length_calls _ _ _ _, rfl⟩

/-- The endpoints that an application asks. -/
def sources (profile : Profile) : List Registration.Endpoint :=
  (profile.rules.map Rule.RuleSet.sources).getD []

/-- No call is given up if there is time for all of them. -/
theorem silence_notMem_replies (profile : Profile) (resolver : Session.Resolver) (r : Remote)
    (visit : Visit) (before : List Call)
    (h : profile.sources.length * r.timeout ≤ profile.ruleTimeout) :
    .silence ∉ profile.replies resolver r.backend visit before := by
  rw [sources] at h
  rw [replies]
  cases hrules : profile.rules with
  | none => exact List.not_mem_nil
  | some rules =>
    rw [hrules] at h
    dsimp only
    rw [RuleCheck.repliesFor]
    cases (profile.ruleCheck r.backend rules).concerned? visit.request
        (profile.caller? resolver visit) with
    | none => exact List.not_mem_nil
    | some claims => exact r.silence_notMem_replies claims.userId rules.sources before _ h

end Profile

/-- **Which fetches are among the samples.**  Some calls to another server are started by a run of
an application.  Under each endpoint and outcome a registry shows as many samples more as there are
calls to that endpoint of which that came: "ok" for a record or none, "error" for a failure.  So
there is one sample for each call just if the check of the rules gave up none; and it gives up none
if there is time for all calls that the rule set may need. -/
theorem sampled_iff (bounds : List Float) (profile : Profile) (resolver : Session.Resolver)
    (r : Remote) (visit : Visit) (trace : Trace) :
    let after :=
      ((profile.chain resolver r.backend visit.now).start visit.id trace visit.request).2.trace
    let replies := profile.replies resolver r.backend visit trace.asked
    ∃ calls : List Call, after.asked = trace.asked ++ calls ∧ calls.length = replies.length ∧
      (∀ key, ((Registry.mk bounds after.measurements).durations key).length =
        ((Registry.mk bounds trace.measurements).durations key).length +
          (samplesOf calls replies).count key) ∧
      ((samplesOf calls replies).map Prod.fst =
          calls.map (fun call => Vocabulary.word call.endpoint) ↔
        .silence ∉ replies) ∧
      (profile.sources.length * r.timeout ≤ profile.ruleTimeout → .silence ∉ replies) := by
  intro after replies
  obtain ⟨calls, hasked, hlength, hsamples⟩ :=
    Profile.asked_samples_start r.samples_backend profile resolver visit trace
  refine ⟨calls, hasked, hlength, fun key => ?_, Registration.map_samplesOf_eq_iff hlength,
    profile.silence_notMem_replies resolver r visit trace.asked⟩
  rw [Registry.length_durations, Registry.length_durations, ← List.count_append, ← hsamples]

/-- A server that says after a while that there is no current record, and nothing after that. -/
def tired : Http.Peer where
  answer
    | [], _ => ⟨.whole { status := .notFound }, some 4500⟩
    | _, _ => ⟨.nothing, none⟩

/-- With the time limits that go without saying, the check gives up the second of two calls, and one
sample is taken. -/
theorem slow_fetch_lost :
    let r := Remote.atUrl "http://127.0.0.1:4000" 5000 tired
    let after := (((Profile.forApp .registration).chain Profile.bearerOnly r.backend 0).start ⟨1⟩ {}
      (.ofPath "/registration/select-operator" Profile.bearerField)).2.trace
    after.asked = [⟨.current, "u"⟩, ⟨.pending, "u"⟩] ∧ after.samples = [("current", "ok")] := by
  decide +kernel

end Routing
end Gatehouse
