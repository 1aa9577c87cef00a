import Gatehouse.Proofs.Routing.Outcome

/-!
# Walks through the stages

The handler of a chain is built from the inside out, each stage around what comes after it.  Seen
from a request it is a walk: one stage after the other is entered and makes its move, until a stage
answers or the end is reached, and on the way back the stages that were passed may add header
fields.

A `Step` is a stage together with what it comes to, its move and what it adds on the way back, and
`walk` goes through a list of them.  `Profile.outcome` says what is decided; a walk also keeps the
context, so it shows which stages were entered and what they have recorded.

* `Gate.step`, `RuleCheck.step`, `Stamp.step` — the three kinds of stages as steps.
* `run_handler`, `Chain.start_eq_walk` — a chain does what the walk through its steps says.
* `walk_of_stranger` — stages that are no concern of unknown callers are all entered, and nothing is
  recorded on the way.
-/

set_option autoImplicit false

namespace Gatehouse
namespace Routing

variable {request : Request} {context : Context} {trace : Trace}

/-! ## Steps -/

/-- Carry out a move in front of a handler, and dress the header fields that come back. -/
def Move.carryOutDressed (move : Move) (dress : Context → Headers → Headers) (next : Handler)
    (run : Run) : Response × Run :=
  match move with
  | .answer response => (response, run)
  | .goOn context =>
    let (response, after) := next.run { run with context }
    ({ response with headers := dress after.context response.headers }, after)

/-- A stage, and what it comes to without its log lines. -/
structure Step where
  stage : Stage
  /-- The move, and the trace after it has been made. -/
  move : Request → Context → Trace → Move × Trace
  /-- What becomes of the header fields of an answer from behind the stage. -/
  dress : Context → Headers → Headers := fun _ headers => headers
  /-- The stage carries out the move, and leaves a trace that is alike. -/
  renders : ∀ (request : Request) (next : Handler) (run : Run) {trace : Trace},
    trace.Alike run.trace →
      ∃ after, (move request run.context trace).2.Alike after ∧
        (stage.process request next).run run =
          (move request run.context trace).1.carryOutDressed dress next { run with trace := after }

/-- Whoever adds nothing on the way back only carries out a move. -/
theorem Move.carryOutDressed_plain (move : Move) (next : Handler) (run : Run) :
    move.carryOutDressed (fun _ headers => headers) next run = move.carryOut next run := by
  cases move with
  | answer | goOn => rfl

/-- The gate as a step: it asks nobody. -/
def Gate.step (gate : Gate) (now : Nat) : Step where
  stage := gate.stage now
  move request context trace := (gate.move now request context, trace)
  renders request next run trace h := by
    obtain ⟨after, halike, hrun⟩ := gate.run_process now request run
    refine ⟨after, h.trans halike, ?_⟩
    rw [Move.carryOutDressed_plain]
    exact hrun next

/-- The check of the rules as a step. -/
def RuleCheck.step (check : RuleCheck) : Step where
  stage := check.stage
  move request context trace :=
    (.sendOr context (check.verdict request context.claims trace).1,
      (check.verdict request context.claims trace).2)
  renders request next run trace h := by
    obtain ⟨after, halike, hrun⟩ := check.run_process request run
    -- the verdict depends on the trace, but only on the calls in it
    obtain ⟨hsame, hfetched⟩ := check.verdict_alike request run.context.claims h
    refine ⟨after, hfetched.trans halike, ?_⟩
    rw [Move.carryOutDressed_plain, hsame]
    exact hrun next

/-- The stamp as a step: it always goes on. -/
def Stamp.step : Step where
  stage := Stamp.stage
  move _ context trace := (.goOn context, trace)
  dress context := Stamp.apply context.requestId
  renders request next run _ h := ⟨run.trace, h, Stamp.run_process request next run⟩

/-- Unknown callers are let through, and nothing is done about them. -/
def Step.PassesStrangers (step : Step) : Prop :=
  ∀ (request : Request) {context : Context} (trace : Trace), context.claims = none →
    step.move request context trace = (.goOn context, trace)

theorem RuleCheck.passesStrangers (check : RuleCheck) : check.step.PassesStrangers := by
  intro request context trace hclaims
  have hverdict : check.verdict request none trace = (none, trace) :=
    verdict_of_unconcerned (Option.filter_none _)
  simp only [RuleCheck.step, hclaims, hverdict]
  rfl

theorem Stamp.passesStrangers : Stamp.step.PassesStrangers :=
  fun _ _ _ _ => rfl

/-! ## Walks -/

/-- Where a walk ends: the answer, what has been recorded, and the trace. -/
structure Finish where
  response : Response
  context : Context
  trace : Trace

/-- The same end with the header fields of the answer changed. -/
def Finish.dressed (finish : Finish) (dress : Context → Headers → Headers) : Finish :=
  { finish with
    response :=
      { finish.response with headers := dress finish.context finish.response.headers } }

/-- Go through some steps until one of them answers or the end is reached. -/
def walk (request : Request) : List Step → Context → Trace → Finish
  | [], context, trace => ⟨⟨landing context, {}⟩, context, trace⟩
  | step :: steps, context, trace =>
    match step.move request (context.enter step.stage.name) trace with
    | (.answer response, after) => ⟨response, context.enter step.stage.name, after⟩
    | (.goOn onward, after) => (walk request steps onward after).dressed step.dress

theorem walk_of_answer {step : Step} {steps : List Step} {response : Response} {after : Trace}
    (h : step.move request (context.enter step.stage.name) trace = (.answer response, after)) :
    walk request (step :: steps) context trace =
      ⟨response, context.enter step.stage.name, after⟩ := by
  rw [walk, h]

theorem walk_of_goOn {step : Step} {steps : List Step} {onward : Context} {after : Trace}
    (h : step.move request (context.enter step.stage.name) trace = (.goOn onward, after)) :
    walk request (step :: steps) context trace =
      (walk request steps onward after).dressed step.dress := by
  rw [walk, h]

/-- **Running stages is walking through their steps.** -/
theorem run_handler (request : Request) (steps : List Step) :
    ∀ (run : Run) {trace : Trace}, trace.Alike run.trace →
      ∃ after, (walk request steps run.context trace).trace.Alike after ∧
        ((steps.map Step.stage).foldr (fun stage next => stage.before request next)
            serveOrPass).run run =
          ((walk request steps run.context trace).response,
            { context := (walk request steps run.context trace).context, trace := after }) := by
  -- by induction on the steps; the trace of the walk stays like that of the run
  induction steps with
  | nil =>
    intro run trace halike
    exact ⟨run.trace, halike, run_serveOrPass run⟩
  | cons step steps ih =>
    intro run trace halike
    obtain ⟨after, hafter, hrun⟩ := step.renders request
      ((steps.map Step.stage).foldr (fun stage next => stage.before request next) serveOrPass)
      { run with context := run.context.enter step.stage.name } halike
    rw [List.map_cons, List.foldr_cons, run_before, hrun]
    rcases hmove : step.move request (run.context.enter step.stage.name) trace with ⟨move, moved⟩
    rw [hmove] at hafter
    cases move with
    | answer response =>
      rw [walk_of_answer hmove]
      exact ⟨after, hafter, rfl⟩
    | goOn onward =>
      obtain ⟨last, hlast, hnext⟩ := ih { context := onward, trace := after } hafter
      rw [walk_of_goOn hmove]
      refine ⟨last, hlast, ?_⟩
      simp only [Move.carryOutDressed, hnext]
      rfl

/-- Counting and logging the decision leaves remarks and nothing else. -/
theorem Chain.run_conclude (chain : Chain) (decision : Decision) (run : Run) :
    ∃ after, run.trace.Alike after ∧
      ((chain.conclude decision).run run).2 = { run with trace := after } :=
  ⟨_, (((Trace.Alike.refl run.trace).append (Remarks.measurement _)).append
    (Remarks.line _)).append (Remarks.measurement _), rfl⟩

/-- **The run of a chain is the walk through its steps.** -/
theorem Chain.start_eq_walk {chain : Chain} {steps : List Step}
    (h : chain.stages = steps.map Step.stage) (id : RequestId) (trace : Trace)
    (request : Request) :
    ∃ after, (walk request steps { requestId := id } trace).trace.Alike after ∧
      chain.start id trace request =
        ((walk request steps { requestId := id } trace).response,
          { context := (walk request steps { requestId := id } trace).context
            trace := after }) := by
  have hentered := (Trace.Alike.refl trace).append (Remarks.measurement .entered)
  obtain ⟨after, halike, hrun⟩ := run_handler request steps
    { context := { requestId := id }, trace := trace.append [.measured .entered] } hentered
  obtain ⟨last, hlast, hconclude⟩ := chain.run_conclude
    (walk request steps { requestId := id } trace).response.decision
    { context := (walk request steps { requestId := id } trace).context, trace := after }
  have hstart : chain.start id trace request =
      let finished := (chain.handler request serveOrPass).run
        { context := { requestId := id }, trace := trace.append [.measured .entered] }
      (finished.1, ((chain.conclude finished.1.decision).run finished.2).2) := rfl
  refine ⟨last, halike.trans hlast, ?_⟩
  rw [hstart, Chain.handler, h, hrun]
  exact Prod.ext rfl hconclude

/-- **Unknown callers walk to the end** through stages that are no concern of theirs, and nothing is
recorded about them. -/
theorem walk_of_stranger {steps : List Step} (hsteps : ∀ step ∈ steps, step.PassesStrangers) :
    ∀ {context : Context} (trace : Trace), context.claims = none →
      (walk request steps context trace).response.decision = landing context ∧
      (walk request steps context trace).context =
        { context with visited := context.visited ++ steps.map fun step => step.stage.name } ∧
      (walk request steps context trace).trace = trace := by
  induction steps with
  | nil =>
    intro context trace _
    exact ⟨rfl, by rw [List.map_nil, List.append_nil]; rfl, rfl⟩
  | cons step steps ih =>
    intro context trace hclaims
    have hentered : (context.enter step.stage.name).claims = none := hclaims
    have hmove := hsteps step List.mem_cons_self request trace hentered
    obtain ⟨hdecision, hcontext, htrace⟩ :=
      ih (fun s hs => hsteps s (List.mem_cons_of_mem _ hs)) trace hentered
    rw [walk_of_goOn hmove]
    refine ⟨hdecision, ?_, htrace⟩
    rw [Finish.dressed, hcontext, Context.enter, List.map_cons, List.append_assoc,
      List.singleton_append]

/-! ## Applications -/

namespace Profile

variable {profile : Profile} {resolver : Session.Resolver} {backend : Registration.Backend}
  {now : Nat}

/-- The steps of an application after the gate. -/
def stepsAfterGate (profile : Profile) (backend : Registration.Backend) : List Step :=
  (profile.rules.map fun rules => (profile.ruleCheck backend rules).step).toList ++ [Stamp.step]

/-- The steps of an application. -/
def steps (profile : Profile) (resolver : Session.Resolver) (backend : Registration.Backend)
    (now : Nat) : List Step :=
  (profile.gate resolver).step now :: profile.stepsAfterGate backend

theorem stages_eq_map_steps (profile : Profile) (resolver : Session.Resolver)
    (backend : Registration.Backend) (now : Nat) :
    (profile.chain resolver backend now).stages =
      (profile.steps resolver backend now).map Step.stage := by
  unfold chain steps stepsAfterGate
  cases profile.rules with
  | none | some rules => rfl

theorem passesStrangers_of_mem {step : Step} (h : step ∈ profile.stepsAfterGate backend) :
    step.PassesStrangers := by
  unfold stepsAfterGate at h
  rcases List.mem_append.1 h with h | h
  · obtain ⟨rules, -, rfl⟩ := Option.map_eq_some_iff.1 (Option.mem_toList.1 h)
    exact (profile.ruleCheck backend rules).passesStrangers
  · obtain rfl := List.mem_singleton.1 h
    exact Stamp.passesStrangers

end Profile
end Routing
end Gatehouse
