import Gatehouse.Proofs.Routing.Moves

/-!
# What a chain decides

`Profile.outcome` says in one piece what the chain of an application decides about a request and
what it does on the way: the exempt pages first, then the callers without a session, then the rules,
and in the end the page under the caller's namespace.  There are no stages in it, no context and no
log lines.

* `Profile.yields_outcome` — the chain decides that, and leaves a trace that is alike.
* `Profile.outcome_serve` — what is known when a path is served to a caller.

Statements about decisions start from here, and the stages need not be opened again.
-/

set_option autoImplicit false

namespace Gatehouse
namespace Routing

variable {request : Request} {next handler : Handler} {run : Run} {decided : Decision}
  {trace : Trace}

/-! ## Handlers and what they yield -/

/-- A handler decides something, and leaves a trace like a given one. -/
structure Yields (handler : Handler) (run : Run) (decision : Decision) (trace : Trace) : Prop where
  decision : (handler.run run).1.decision = decision
  trace : trace.Alike (handler.run run).2.trace

/-- The context after a stage has been entered. -/
def Context.enter (context : Context) (name : String) : Context :=
  { context with visited := context.visited ++ [name] }

/-- The decision at the end of the stages. -/
def landing (context : Context) : Decision :=
  match context.served with
  | some path => .serve path
  | none => .passThrough

/-- A redirect if the caller is sent somewhere, and otherwise what is decided anyway. -/
def sentOr (sent : Option String) (decision : Decision) : Decision :=
  match sent with
  | some location => .redirect location .temporaryRedirect
  | none => decision

theorem Yields.of_run {response : Response} {after : Run} (h : handler.run run = (response, after))
    (ht : trace.Alike after.trace) : Yields handler run response.decision trace :=
  ⟨by rw [h], by rw [h]; exact ht⟩

theorem Yields.congr {after : Run} (hrun : handler.run run = next.run after)
    (h : Yields next after decided trace) : Yields handler run decided trace :=
  ⟨by rw [hrun, h.decision], by rw [hrun]; exact h.trace⟩

theorem run_before (stage : Stage) :
    (stage.before request next).run run =
      (stage.process request next).run { run with context := run.context.enter stage.name } := rfl

theorem run_serveOrPass (run : Run) : serveOrPass.run run = (⟨landing run.context, {}⟩, run) := by
  unfold serveOrPass landing
  rw [Routed.run_bind, Routed.run_context]
  cases run.context.served with
  | none | some path => rfl

/-- What a stage yields that sends the caller away or goes on. -/
theorem Yields.sendOr {context : Context} {sent : Option String} {after : Run}
    (hrun : handler.run run = (Move.sendOr context sent).carryOut next after)
    (hafter : trace.Alike after.trace) (hnext : Yields next { after with context } decided trace) :
    Yields handler run (sentOr sent decided) trace := by
  cases sent with
  | some location => exact .of_run hrun hafter
  | none => exact .congr hrun hnext

/-- The stamp at the end decides nothing. -/
theorem yields_stamp (h : trace.Alike run.trace) :
    Yields (Stamp.stage.before request serveOrPass) run (landing run.context) trace := by
  have hrun : (Stamp.stage.before request serveOrPass).run run =
      (⟨landing run.context, Stamp.apply run.context.requestId {}⟩,
        { run with context := run.context.enter Stamp.stage.name }) := by
    rw [run_before, Stamp.run_process, run_serveOrPass]
    rfl
  exact .of_run hrun h

/-- Counting and logging the decision changes nothing about it. -/
theorem Yields.processWith {chain : Chain} {terminal : Handler}
    (h : Yields (chain.handler request terminal)
      { run with trace := run.trace.append [.measured .entered] } decided trace) :
    Yields (chain.processWith request terminal) run decided trace where
  decision := h.decision
  trace := ((h.trace.append (Remarks.measurement _)).append (Remarks.line _)).append
    (Remarks.measurement _)

/-- The run of a chain for a request of which nothing is known yet. -/
def Chain.start (chain : Chain) (id : RequestId) (trace : Trace) (request : Request) :
    Response × Run :=
  (chain.process request).run { context := { requestId := id }, trace }

/-- What a chain decides about a request of which nothing is known yet. -/
def Chain.decision (chain : Chain) (id : RequestId) (trace : Trace) (request : Request) :
    Decision :=
  (chain.start id trace request).1.decision

/-! ## Applications -/

namespace Profile

variable {profile : Profile} {resolver : Session.Resolver} {backend : Registration.Backend}
  {now : Nat}

/-- Where a caller is sent by the rules of an application, if anywhere, and the trace after that has
been found out. -/
def verdict (profile : Profile) (backend : Registration.Backend) (request : Request)
    (caller : Option Claims) (trace : Trace) : Option String × Trace :=
  match profile.rules with
  | none => (none, trace)
  | some rules => (profile.ruleCheck backend rules).verdict request caller trace

theorem verdict_of_rules {rules : Rule.RuleSet} (h : profile.rules = some rules)
    (caller : Option Claims) (trace : Trace) :
    profile.verdict backend request caller trace =
      (profile.ruleCheck backend rules).verdict request caller trace := by
  rw [verdict, h]

theorem verdict_forwarded (profile : Profile) (backend : Registration.Backend) (request : Request)
    (caller : Option Claims) (trace : Trace) :
    (profile.verdict backend request caller trace).2.forwarded = trace.forwarded := by
  unfold verdict
  cases profile.rules with
  | none => rfl
  | some rules => exact (profile.ruleCheck backend rules).verdict_forwarded request caller trace

/-- What becomes of a known caller whom the rules do not send away. -/
def admission (profile : Profile) (resolver : Session.Resolver) (request : Request)
    (claims : Claims) : Decision :=
  if (profile.gate resolver).isAllowListed request then .passThrough
  else .serve ((profile.gate resolver).servedPath claims request)

/-- The decision about a request, and the trace after it has been made. -/
def outcome (profile : Profile) (resolver : Session.Resolver) (backend : Registration.Backend)
    (now : Nat) (request : Request) (trace : Trace) : Decision × Trace :=
  if (profile.gate resolver).isExempt request then (.passThrough, trace)
  else
    match resolver now request with
    | .error _ =>
      if (profile.gate resolver).isAllowListed request then (.passThrough, trace)
      else (.redirect profile.onboardingPath .temporaryRedirect, trace)
    | .ok claims =>
      let verdict := profile.verdict backend request (some claims) trace
      (sentOr verdict.1 (profile.admission resolver request claims), verdict.2)

theorem outcome_of_exempt (h : (profile.gate resolver).isExempt request = true) :
    profile.outcome resolver backend now request trace = (.passThrough, trace) := by
  rw [outcome, if_pos h]

theorem outcome_of_unknown {error : SessionError}
    (h : (profile.gate resolver).isExempt request = false)
    (herror : resolver now request = .error error) :
    profile.outcome resolver backend now request trace =
      if (profile.gate resolver).isAllowListed request then (.passThrough, trace)
      else (.redirect profile.onboardingPath .temporaryRedirect, trace) := by
  rw [outcome, h, herror, if_neg Bool.false_ne_true]

theorem outcome_of_known {claims : Claims} (h : (profile.gate resolver).isExempt request = false)
    (hclaims : resolver now request = .ok claims) :
    profile.outcome resolver backend now request trace =
      (sentOr (profile.verdict backend request (some claims) trace).1
          (profile.admission resolver request claims),
        (profile.verdict backend request (some claims) trace).2) := by
  rw [outcome, h, hclaims, if_neg Bool.false_ne_true]

theorem outcome_forwarded (profile : Profile) (resolver : Session.Resolver)
    (backend : Registration.Backend) (now : Nat) (request : Request) (trace : Trace) :
    (profile.outcome resolver backend now request trace).2.forwarded = trace.forwarded := by
  unfold outcome
  split
  · rfl
  · split
    · split <;> rfl
    · exact profile.verdict_forwarded backend request _ trace

/-- A path is served to a known caller whom nothing sends away, and it is the path under the
caller's namespace. -/
theorem outcome_serve {claims : Claims} {served : String}
    (hclaims : resolver now request = .ok claims)
    (h : (profile.outcome resolver backend now request trace).1 = .serve served) :
    (profile.verdict backend request (some claims) trace).1 = none ∧
      (profile.outcome resolver backend now request trace).2 =
        (profile.verdict backend request (some claims) trace).2 ∧
      served = (profile.gate resolver).servedPath claims request := by
  cases hexempt : (profile.gate resolver).isExempt request with
  | true =>
    rw [outcome_of_exempt hexempt] at h
    cases h
  | false =>
    rw [outcome_of_known hexempt hclaims] at h ⊢
    cases hverdict : (profile.verdict backend request (some claims) trace).1 with
    | some location =>
      rw [hverdict] at h
      cases h
    | none =>
      refine ⟨rfl, rfl, ?_⟩
      rw [hverdict, sentOr, admission] at h
      split at h
      · cases h
      · cases h
        rfl

/-- The stages after the gate. -/
def afterGate (profile : Profile) (backend : Registration.Backend) (request : Request) : Handler :=
  ((profile.rules.map fun rules => (profile.ruleCheck backend rules).stage).toList ++
    [Stamp.stage]).foldr (fun stage next => stage.before request next) serveOrPass

/-- Nobody who is unknown is sent away by the rules. -/
theorem verdict_none (profile : Profile) (backend : Registration.Backend) (request : Request)
    (trace : Trace) : profile.verdict backend request none trace = (none, trace) := by
  unfold verdict
  cases profile.rules with
  | none => rfl
  | some rules => exact RuleCheck.verdict_of_unconcerned (Option.filter_none _)

/-- After the gate the rules send the caller away, or the end of the stages is reached. -/
theorem yields_afterGate (profile : Profile) (backend : Registration.Backend) (request : Request)
    {caller : Option Claims} (hcaller : run.context.claims = caller) (h : trace.Alike run.trace) :
    Yields (profile.afterGate backend request) run
      (sentOr (profile.verdict backend request caller trace).1 (landing run.context))
      (profile.verdict backend request caller trace).2 := by
  subst hcaller
  unfold afterGate verdict
  cases profile.rules with
  | none => exact yields_stamp h
  | some rules =>
    let check := profile.ruleCheck backend rules
    obtain ⟨hsame, hfetched⟩ := check.verdict_alike request run.context.claims h
    obtain ⟨after, halike, hrun⟩ := check.run_process request
      { run with context := run.context.enter check.stage.name }
    have hafter := hfetched.trans halike
    show Yields _ _ (sentOr (check.verdict request run.context.claims trace).1 _) _
    rw [hsame]
    exact .sendOr (run_before check.stage |>.trans (hrun _)) hafter (yields_stamp hafter)

/-- **The chain of an application decides what `outcome` says,** and leaves a trace that is alike.
-/
theorem yields_outcome (profile : Profile) (resolver : Session.Resolver)
    (backend : Registration.Backend) (now : Nat) (request : Request) (id : RequestId)
    (trace : Trace) :
    Yields ((profile.chain resolver backend now).process request)
      { context := { requestId := id }, trace }
      (profile.outcome resolver backend now request trace).1
      (profile.outcome resolver backend now request trace).2 := by
  refine .processWith ?_
  let gate := profile.gate resolver
  let entered : Run :=
    { context := Context.enter { requestId := id } (gate.stage now).name
      trace := trace.append [.measured .entered] }
  obtain ⟨after, halike, hprocess⟩ := gate.run_process now request entered
  have hrun := hprocess (profile.afterGate backend request)
  have hafter := ((Trace.Alike.refl trace).append (Remarks.measurement _)).trans halike
  refine .congr (show _ = (gate.process now request (profile.afterGate backend request)).run entered
    from rfl) ?_
  cases hexempt : gate.isExempt request with
  | true =>
    rw [Gate.move_of_exempt hexempt] at hrun
    rw [outcome_of_exempt hexempt]
    exact .of_run hrun hafter
  | false =>
    cases hsession : resolver now request with
    | ok claims =>
      rw [Gate.move_of_known hexempt hsession] at hrun
      rw [outcome_of_known hexempt hsession]
      have hlanding : landing (gate.admitted request claims entered.context) =
          profile.admission resolver request claims := by
        unfold admission Gate.admitted
        split <;> rfl
      rw [← hlanding]
      exact .congr hrun (profile.yields_afterGate backend request rfl hafter)
    | error error =>
      rw [Gate.move_of_unknown hexempt hsession] at hrun
      rw [outcome_of_unknown hexempt hsession]
      cases hlisted : gate.isAllowListed request with
      | true =>
        rw [hlisted, if_pos rfl] at hrun
        have hnobody : entered.context.claims = none := rfl
        have hrest : Yields (profile.afterGate backend request)
            { entered with trace := after } _ _ :=
          profile.yields_afterGate backend request hnobody hafter
        rw [profile.verdict_none] at hrest
        exact .congr hrun hrest
      | false =>
        rw [hlisted] at hrun
        exact .of_run hrun hafter

/-- Making a decision sends nothing to the page server. -/
theorem forwarded_start (profile : Profile) (resolver : Session.Resolver)
    (backend : Registration.Backend) (now : Nat) (id : RequestId) (trace : Trace)
    (request : Request) :
    ((profile.chain resolver backend now).start id trace request).2.trace.forwarded =
      trace.forwarded := by
  have halike := (profile.yields_outcome resolver backend now request id trace).trace
  rw [Chain.start, ← halike.forwarded, outcome_forwarded]

theorem decision_eq_outcome (profile : Profile) (resolver : Session.Resolver)
    (backend : Registration.Backend) (now : Nat) (id : RequestId) (trace : Trace)
    (request : Request) :
    (profile.chain resolver backend now).decision id trace request =
      (profile.outcome resolver backend now request trace).1 :=
  (profile.yields_outcome resolver backend now request id trace).decision

end Profile
end Routing
end Gatehouse
