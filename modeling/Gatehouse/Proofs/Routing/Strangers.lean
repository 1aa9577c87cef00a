import Gatehouse.Proofs.Routing.Anonymous
import Gatehouse.Proofs.Routing.Walk

/-!
# What is done about callers without a session

`decision_of_unknown` says what is decided about a caller without a session.  The run leaves more
than a decision: it may have recorded something about the caller, entered stages, or asked the
backend.  Here it is shown that it has done none of that, whatever the settings of the application
and whatever is wrong with the session.

* `walk_of_unknown` — the walk of such a request, in closed form.
* `start_of_unknown` — what the run answers and leaves behind.  Stages after the gate are entered
  for pages on the allow list alone, and nobody is asked anything.
-/

set_option autoImplicit false

namespace Gatehouse
namespace Routing
namespace Profile

variable {profile : Profile} {resolver : Session.Resolver} {backend : Registration.Backend}
  {now : Nat} {request : Request} {id : RequestId} {trace : Trace}

/-- The names of the stages of an application are those of its steps. -/
theorem stageNames_eq_map_steps (profile : Profile) (resolver : Session.Resolver)
    (backend : Registration.Backend) (now : Nat) :
    (profile.chain resolver backend now).stageNames =
      "authorization" :: (profile.stepsAfterGate backend).map fun step => step.stage.name := by
  rw [Chain.stageNames, stages_eq_map_steps, List.map_map]
  rfl

/-- **The walk of a request without a session** ends at the gate, or goes on to the end for pages on
the allow list; the context records the stages and nothing else, and the trace is as it was. -/
theorem walk_of_unknown {error : SessionError} (herror : resolver now request = .error error) :
    (walk request (profile.steps resolver backend now) { requestId := id } trace).context =
        { requestId := id
          visited := if !(profile.gate resolver).isExempt request &&
              (profile.gate resolver).isAllowListed request
            then (profile.chain resolver backend now).stageNames else ["authorization"] } ∧
      (walk request (profile.steps resolver backend now) { requestId := id } trace).trace =
        trace := by
  let gate := profile.gate resolver
  let entered : Context := Context.enter { requestId := id } "authorization"
  have hsteps : profile.steps resolver backend now =
      gate.step now :: profile.stepsAfterGate backend := rfl
  have hmoved : ∀ {move}, gate.move now request entered = move →
      (gate.step now).move request entered trace = (move, trace) := by
    rintro _ rfl
    rfl
  rw [hsteps]
  cases hexempt : gate.isExempt request with
  | true =>
    rw [walk_of_answer (hmoved (Gate.move_of_exempt hexempt))]
    exact ⟨rfl, rfl⟩
  | false =>
    have hmove : gate.move now request entered = _ := Gate.move_of_unknown hexempt herror
    cases hlisted : gate.isAllowListed request with
    | false =>
      rw [hlisted, if_neg Bool.false_ne_true] at hmove
      rw [walk_of_answer (hmoved hmove)]
      exact ⟨rfl, rfl⟩
    | true =>
      rw [hlisted, if_pos rfl] at hmove
      have hnobody : entered.claims = none := rfl
      obtain ⟨-, hcontext, htrace⟩ := walk_of_stranger
        (fun step hstep => passesStrangers_of_mem hstep) trace hnobody
      rw [walk_of_goOn (hmoved hmove)]
      refine ⟨?_, htrace⟩
      rw [Finish.dressed, hcontext, stageNames_eq_map_steps]
      rfl

/-- **A caller without a session is sent to sign in,** unless the page is exempt or on the allow
list; then the request passes as it is.  Either way no claims and no path are recorded, the backend
is asked nothing, and no stage after the gate is entered unless the page is on the allow list and
not exempt. -/
theorem start_of_unknown (profile : Profile) (backend : Registration.Backend) (id : RequestId)
    (trace : Trace) {error : SessionError} (herror : resolver now request = .error error) :
    ((profile.chain resolver backend now).start id trace request).1.decision =
        (if (profile.gate resolver).isExempt request ||
          (profile.gate resolver).isAllowListed request
          then .passThrough
        else .redirect profile.onboardingPath .temporaryRedirect) ∧
      ((profile.chain resolver backend now).start id trace request).2.context.claims = none ∧
      ((profile.chain resolver backend now).start id trace request).2.context.served = none ∧
      ((profile.chain resolver backend now).start id trace request).2.trace.asked = trace.asked ∧
      ((profile.chain resolver backend now).start id trace request).2.context.visited =
        if !(profile.gate resolver).isExempt request &&
          (profile.gate resolver).isAllowListed request
          then (profile.chain resolver backend now).stageNames
        else ["authorization"] := by
  obtain ⟨after, halike, hstart⟩ := Chain.start_eq_walk
    (profile.stages_eq_map_steps resolver backend now) id trace request
  obtain ⟨hcontext, htrace⟩ := walk_of_unknown herror
  rw [htrace] at halike
  rw [hcontext] at hstart
  refine ⟨decision_of_unknown herror, ?_⟩
  rw [hstart]
  exact ⟨rfl, rfl, halike.asked.symm, rfl⟩

/-- An application with settings of its own, for examples. -/
def portal : Profile where
  label := "portal"
  basePath := "/portal"
  onboardingPath := "/welcome"
  allowList := ["profile", "help"]
  exemptPrefixes := ["/static/"]
  rules := some Rule.selectOperator

/-- Finds the session of every request expired. -/
def allExpired : Session.Resolver := fun _ _ => .error .expired

/-- A caller whose session has expired is shown a page on the allow list, though it is protected;
the check of the rules is entered and asks nothing. -/
theorem start_of_unknown_help :
    allExpired 0 (.ofPath "/portal/select-operator/help" {}) = .error .expired ∧
      ((portal.chain allExpired (Registration.Records.backend {}) 0).start ⟨1⟩ {}
        (.ofPath "/portal/select-operator/help" {})).1.decision = .passThrough ∧
      ((portal.chain allExpired (Registration.Records.backend {}) 0).start ⟨1⟩ {}
        (.ofPath "/portal/select-operator/help" {})).2.context.visited =
          ["authorization", "business_rules", "response"] ∧
      ((portal.chain allExpired (Registration.Records.backend {}) 0).start ⟨1⟩ {}
        (.ofPath "/portal/select-operator/help" {})).2.trace.asked = [] := by
  have herror : allExpired 0 (.ofPath "/portal/select-operator/help" {}) = .error .expired := rfl
  obtain ⟨hdecision, -, -, hasked, hvisited⟩ :=
    start_of_unknown portal (Registration.Records.backend {}) ⟨1⟩ {} herror
  exact ⟨herror, hdecision.trans (by decide), hvisited.trans (by decide), hasked⟩

end Profile
end Routing
end Gatehouse
