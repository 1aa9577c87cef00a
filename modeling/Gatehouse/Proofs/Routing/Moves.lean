import Gatehouse.Routing.Profile
import Gatehouse.Proofs.Registration.Fetching

/-!
# What the stages do

A stage either answers by itself or goes on with some context, and along the way it may ask the
backend.  `Move` is the first of these as a value.

The stages run as computations on a whole `Run`, so that their code says in which order things
happen.  Here it is proved, once for each stage, that running it is carrying out a move that is
computed without log lines and without a handler that comes after it.  What a stage logs differs
from case to case and is left open: the traces are only said to be alike, and what has been measured
between them.

* `Gate.run_process` — the gate asks nobody, so its move depends on the request and the context
  alone.
* `RuleCheck.run_process` — the check of the rules sends the caller away or goes on, as its
  `verdict` says, and the trace is untouched if the rules are no concern of the caller's.
* `Stamp.run_process` — the stamp always goes on, and changes header fields only.
* `Gate.run_process_remarked`, `RuleCheck.run_process_remarked` — the same with what is measured on
  the way.
-/

set_option autoImplicit false

namespace Gatehouse
namespace Routing

variable {request : Request} {next : Handler} {run : Run}

/-! ## Running -/

namespace Routed

theorem run_bind {α β : Type} (first : Routed α) (f : α → Routed β) :
    (first >>= f).run run = (f (first.run run).1).run (first.run run).2 := rfl

@[simp] theorem run_context : Routed.context.run run = (run.context, run) := rfl

@[simp] theorem run_traced {α : Type} (t : Traced α) :
    (Routed.traced t).run run = ((t.run run.trace).1, { run with trace := (t.run run.trace).2 }) :=
  rfl

end Routed

/-! ## Moves -/

/-- What a stage does before anything after it happens. -/
inductive Move where
  | answer (response : Response)
  | goOn (context : Context)

/-- Send the caller away if there is somewhere to send it. -/
def Move.sendOr (context : Context) : Option String → Move
  | some location => .answer (.redirect location)
  | none => .goOn context

/-- Carry out a move in front of a handler. -/
def Move.carryOut (move : Move) (next : Handler) (run : Run) : Response × Run :=
  match move with
  | .answer response => (response, run)
  | .goOn context => next.run { run with context }

/-! ## The gate -/

namespace Gate

variable {gate : Gate} {now : Nat} {claims : Claims}

/-- The context after a known caller has been let in. -/
def admitted (gate : Gate) (request : Request) (claims : Claims) (context : Context) : Context :=
  { context with
    claims := some claims
    served := if gate.isAllowListed request then context.served
      else some (gate.servedPath claims request) }

/-- The move of the gate. -/
def move (gate : Gate) (now : Nat) (request : Request) (context : Context) : Move :=
  if gate.isExempt request then .answer .passThrough
  else
    match gate.resolver now request with
    | .ok claims => .goOn (gate.admitted request claims context)
    | .error _ =>
      if gate.isAllowListed request then .goOn context
      else .answer (.redirect gate.onboardingPath)

theorem move_of_exempt {context : Context} (h : gate.isExempt request = true) :
    gate.move now request context = .answer .passThrough := by
  rw [move, if_pos h]

theorem move_of_known {context : Context} (h : gate.isExempt request = false)
    (hclaims : gate.resolver now request = .ok claims) :
    gate.move now request context = .goOn (gate.admitted request claims context) := by
  rw [move, h, hclaims, if_neg Bool.false_ne_true]

theorem move_of_unknown {context : Context} {error : SessionError}
    (h : gate.isExempt request = false)
    (herror : gate.resolver now request = .error error) :
    gate.move now request context =
      if gate.isAllowListed request then .goOn context
      else .answer (.redirect gate.onboardingPath) := by
  rw [move, h, herror, if_neg Bool.false_ne_true]

theorem run_letIn (gate : Gate) (request : Request) (claims : Claims) (run : Run) :
    ∃ trace, run.trace.Remarked trace [] ∧
      (gate.letIn request claims).run run =
        ((), { context := gate.admitted request claims run.context, trace }) := by
  unfold letIn admitted
  cases gate.isAllowListed request with
  | true => exact ⟨_, (Trace.Remarked.refl _).line _, rfl⟩
  | false => exact ⟨_, ((Trace.Remarked.refl _).line _).line _, rfl⟩

theorem run_reject (gate : Gate) (request : Request) (error : SessionError) (run : Run) :
    ∃ trace, run.trace.Remarked trace [] ∧
      (gate.reject request error).run run =
        (.redirect gate.onboardingPath, { run with trace }) := by
  cases error with
  | absent | _ => exact ⟨_, (Trace.Remarked.refl _).line _, rfl⟩

/-- The gate only makes remarks, and measures nothing. -/
theorem run_process_remarked (gate : Gate) (now : Nat) (request : Request) (run : Run) :
    ∃ trace, run.trace.Remarked trace [] ∧ ∀ next : Handler,
      (gate.process now request next).run run =
        (gate.move now request run.context).carryOut next { run with trace } := by
  unfold process move
  cases gate.isExempt request with
  | true => exact ⟨_, (Trace.Remarked.refl _).line _, fun _ => rfl⟩
  | false =>
    cases gate.resolver now request with
    | ok claims =>
      obtain ⟨trace, hremarked, hrun⟩ := gate.run_letIn request claims run
      refine ⟨trace, hremarked, fun next => ?_⟩
      simp only [Bool.false_eq_true, if_false, Routed.run_bind, hrun]
      rfl
    | error error =>
      cases gate.isAllowListed request with
      | true => exact ⟨_, (Trace.Remarked.refl _).line _, fun _ => rfl⟩
      | false =>
        obtain ⟨trace, hremarked, hrun⟩ := gate.run_reject request error run
        exact ⟨trace, hremarked, fun _ => hrun⟩

/-- **Running the gate is carrying out its move,** whatever comes after it. -/
theorem run_process (gate : Gate) (now : Nat) (request : Request) (run : Run) :
    ∃ trace, run.trace.Alike trace ∧ ∀ next : Handler,
      (gate.process now request next).run run =
        (gate.move now request run.context).carryOut next { run with trace } := by
  obtain ⟨trace, hremarked, hrun⟩ := gate.run_process_remarked now request run
  exact ⟨trace, hremarked.alike, hrun⟩

end Gate

/-! ## The check of the rules -/

namespace RuleCheck

variable {check : RuleCheck} {claims : Claims}

/-- The caller whose rules have to be checked for a request, if there is one. -/
def concerned? (check : RuleCheck) (request : Request) (caller : Option Claims) : Option Claims :=
  caller.filter fun claims => claims.isIndustry && check.rules.protects (check.appPath request)

/-- Where a caller is sent by what the rule set decides, if anywhere. -/
def destination? (check : RuleCheck) : Rule.Outcome → Option String
  | .proceed => none
  | .redirect page query => some (check.location page query)

/-- Where a caller is sent because of its records, or for the want of them. -/
def objection? (check : RuleCheck) : Registration.Result → Option String
  | .ok facts => check.destination? (check.rules.decide facts)
  | .error _ => some check.appRoot

/-- Where a caller is sent, if anywhere, and the trace after that has been found out. -/
def verdict (check : RuleCheck) (request : Request) (caller : Option Claims) (trace : Trace) :
    Option String × Trace :=
  match check.concerned? request caller with
  | none => (none, trace)
  | some claims =>
    let fetched := (check.facts claims.userId).run trace
    (check.objection? fetched.1, fetched.2)

theorem concerned?_some (check : RuleCheck) (request : Request) (claims : Claims) :
    check.concerned? request (some claims) =
      if claims.isIndustry && check.rules.protects (check.appPath request) then some claims
      else none :=
  Option.filter_some

/-- What is measured of records that are there, or cannot be had. -/
def alarms (check : RuleCheck) : Registration.Result → List Measurement
  | .ok _ => []
  | .error _ => [.failSafe check.app "backend_unavailable"]

/-- What the check measures, given the trace when it starts. -/
def measures (check : RuleCheck) (request : Request) (caller : Option Claims) (trace : Trace) :
    List Measurement :=
  match check.concerned? request caller with
  | none => []
  | some claims => check.alarms ((check.facts claims.userId).run trace).1

theorem verdict_of_unconcerned {caller : Option Claims} {trace : Trace}
    (h : check.concerned? request caller = none) :
    check.verdict request caller trace = (none, trace) := by
  rw [verdict, h]

theorem verdict_of_concerned {caller : Option Claims} {trace : Trace}
    (h : check.concerned? request caller = some claims) :
    check.verdict request caller trace =
      (check.objection? ((check.facts claims.userId).run trace).1,
        ((check.facts claims.userId).run trace).2) := by
  rw [verdict, h]

theorem objection?_eq_none_iff (check : RuleCheck) (result : Registration.Result) :
    check.objection? result = none ↔
      ∃ facts, result = .ok facts ∧ check.rules.decide facts = .proceed := by
  rcases result with error | facts
  · simp [objection?]
  · cases hdecide : check.rules.decide facts with
    | proceed | redirect => simp [objection?, destination?, hdecide]

/-- The records are those of a fetch, and looking for them adds the same to traces with the same
calls. -/
theorem facts_run (check : RuleCheck) (userId : String) {t t' : Trace} (h : t.asked = t'.asked) :
    ∃ result events, (check.facts userId).run t = (result, t.append events) ∧
      (check.facts userId).run t' = (result, t'.append events) ∧
      Trace.forwarded ⟨events⟩ = [] := by
  obtain ⟨found, events, hrun, hrun', hforwarded⟩ :=
    Registration.fetch_run check.backend userId check.rules.sources (some check.timeout) h
  simp only [facts, StateT.run_bind, hrun, hrun']
  cases found with
  | some result => exact ⟨result, events, rfl, rfl, hforwarded⟩
  | none => exact ⟨.error (.timeout check.timeout), events, rfl, rfl, hforwarded⟩

/-- Of a trace the check sees only the calls, so traces that are alike lead to the same verdict. -/
theorem verdict_alike (check : RuleCheck) (request : Request) (caller : Option Claims)
    {t t' : Trace} (h : t.Alike t') :
    (check.verdict request caller t).1 = (check.verdict request caller t').1 ∧
      (check.verdict request caller t).2.Alike (check.verdict request caller t').2 := by
  cases hconcerned : check.concerned? request caller with
  | none =>
    rw [verdict_of_unconcerned hconcerned, verdict_of_unconcerned hconcerned]
    exact ⟨rfl, h⟩
  | some claims =>
    obtain ⟨result, events, hrun, hrun', -⟩ := check.facts_run claims.userId h.asked
    rw [verdict_of_concerned hconcerned, verdict_of_concerned hconcerned, hrun, hrun']
    exact ⟨rfl, h.append_both events⟩

/-- Looking for the records sends nothing to the page server. -/
theorem verdict_forwarded (check : RuleCheck) (request : Request) (caller : Option Claims)
    (t : Trace) : (check.verdict request caller t).2.forwarded = t.forwarded := by
  cases hconcerned : check.concerned? request caller with
  | none => rw [verdict_of_unconcerned hconcerned]
  | some claims =>
    obtain ⟨result, events, hrun, -, hforwarded⟩ := check.facts_run claims.userId (t := t) rfl
    rw [verdict_of_concerned hconcerned, hrun, Trace.forwarded_append, hforwarded, List.append_nil]

theorem run_conclude (check : RuleCheck) (claims : Claims) (outcome : Rule.Outcome) (run : Run) :
    ∃ trace, run.trace.Remarked trace [] ∧ ∀ next : Handler,
      (check.conclude claims next outcome).run run =
        (Move.sendOr run.context (check.destination? outcome)).carryOut next
          { run with trace } := by
  cases outcome with
  | proceed | redirect => exact ⟨_, (Trace.Remarked.refl _).line _, fun _ => rfl⟩

theorem run_failSafe (check : RuleCheck) (request : Request) (error : Registration.BackendError)
    (run : Run) :
    ∃ trace, run.trace.Remarked trace [.failSafe check.app "backend_unavailable"] ∧
      (check.failSafe request error).run run = (.redirect check.appRoot, { run with trace }) :=
  ⟨_, ((Trace.Remarked.refl _).measurement _).line _, rfl⟩

/-- Once the records are there, or are known to be missing, the rest of the check is settled by
them. -/
theorem run_check (check : RuleCheck) (request : Request) (claims : Claims) (run : Run) :
    ∃ trace, ((check.facts claims.userId).run run.trace).2.Remarked trace
        (check.alarms ((check.facts claims.userId).run run.trace).1) ∧
      ∀ next : Handler, (check.check request claims next).run run =
        (Move.sendOr run.context
          (check.objection? ((check.facts claims.userId).run run.trace).1)).carryOut next
            { run with trace } := by
  unfold RuleCheck.check
  simp only [Routed.run_bind, Routed.run_traced]
  rcases (check.facts claims.userId).run run.trace with ⟨error | facts, fetched⟩
  · obtain ⟨trace, hremarked, hrun⟩ :=
      check.run_failSafe request error { run with trace := fetched }
    exact ⟨trace, hremarked, fun _ => hrun⟩
  · exact check.run_conclude claims (check.rules.decide facts) { run with trace := fetched }

/-- What the check measures after the records have been looked for. -/
theorem run_process_remarked (check : RuleCheck) (request : Request) (run : Run) :
    ∃ trace, (check.verdict request run.context.claims run.trace).2.Remarked trace
        (check.measures request run.context.claims run.trace) ∧
      ∀ next : Handler, (check.process request next).run run =
        (Move.sendOr run.context
          (check.verdict request run.context.claims run.trace).1).carryOut next
            { run with trace } := by
  unfold process measures
  simp only [Routed.run_bind, Routed.run_context]
  cases hclaims : run.context.claims with
  | none =>
    have hconcerned : check.concerned? request none = none := Option.filter_none _
    rw [verdict_of_unconcerned hconcerned, hconcerned]
    exact ⟨_, Trace.Remarked.refl _, fun _ => rfl⟩
  | some claims =>
    have hconcerned := check.concerned?_some request claims
    cases hindustry : claims.isIndustry with
    | false =>
      rw [hindustry, Bool.false_and, if_neg Bool.false_ne_true] at hconcerned
      rw [verdict_of_unconcerned hconcerned, hconcerned]
      simp only [hindustry]
      exact ⟨_, (Trace.Remarked.refl _).line _, fun _ => rfl⟩
    | true =>
      cases hprotects : check.rules.protects (check.appPath request) with
      | false =>
        rw [hprotects, Bool.and_false, if_neg Bool.false_ne_true] at hconcerned
        rw [verdict_of_unconcerned hconcerned, hconcerned]
        simp only [hindustry]
        exact ⟨_, Trace.Remarked.refl _, fun _ => rfl⟩
      | true =>
        rw [hindustry, hprotects, Bool.and_true, if_pos rfl] at hconcerned
        rw [verdict_of_concerned hconcerned, hconcerned]
        simp only [hindustry]
        exact check.run_check request claims run

/-- **Running the check of the rules is carrying out its verdict,** whatever comes after it. -/
theorem run_process (check : RuleCheck) (request : Request) (run : Run) :
    ∃ trace, (check.verdict request run.context.claims run.trace).2.Alike trace ∧
      ∀ next : Handler, (check.process request next).run run =
        (Move.sendOr run.context
          (check.verdict request run.context.claims run.trace).1).carryOut next
            { run with trace } := by
  obtain ⟨trace, hremarked, hrun⟩ := check.run_process_remarked request run
  exact ⟨trace, hremarked.alike, hrun⟩

end RuleCheck

/-! ## The stamp -/

/-- **Running the stamp is going on,** with two more header fields in the end. -/
theorem Stamp.run_process (request : Request) (next : Handler) (run : Run) :
    (Stamp.stage.process request next).run run =
      let (response, after) := next.run run
      ({ response with headers := Stamp.apply after.context.requestId response.headers }, after) :=
  rfl

end Routing
end Gatehouse
