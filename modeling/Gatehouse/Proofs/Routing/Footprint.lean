import Gatehouse.Proofs.Http.Fields
import Gatehouse.Proofs.Routing.Walk

/-!
# What stages leave behind

Stages decide about a request, and the page server has no part in that: it is asked after they are
through.  What they do leave to the caller is header fields, and there are two names for these.

* `Chain.forwarded_start_of_quiet` — a chain of stages that send the page server nothing sends it
  nothing, whatever they decide.
* `Chain.names_start_subset` — a chain attaches no names but those that its steps attach.
* `Chain.hasNoOtherId_start` — nor an identifier other than the one that the request came with, if
  its steps leave that as it is.
* `Chain.IsBuilt` — chains of the stages that there are, in any order and any number;
  `IsBuilt.isQuiet`, `IsBuilt.names_subset` and `IsBuilt.hasNoOtherId` are these statements for
  them.
* `Profile.getAll_requestId_start` — for whom the stages of an application attach the identifier.
-/

set_option autoImplicit false

namespace Gatehouse
namespace Routing

/-! ## Sending nothing -/

/-- A handler that sends the page server nothing. -/
def Handler.IsQuiet (handler : Handler) : Prop :=
  ∀ run : Run, (handler.run run).2.trace.forwarded = run.trace.forwarded

/-- A stage that sends the page server nothing of its own. -/
def Stage.IsQuiet (stage : Stage) : Prop :=
  ∀ (request : Request) {next : Handler}, Handler.IsQuiet next →
    Handler.IsQuiet (stage.process request next)

/-- A chain of stages that send the page server nothing. -/
def Chain.IsQuiet (chain : Chain) : Prop :=
  ∀ stage ∈ chain.stages, stage.IsQuiet

theorem isQuiet_serveOrPass : Handler.IsQuiet serveOrPass := by
  intro run
  rw [run_serveOrPass]

theorem Stage.IsQuiet.before {stage : Stage} (h : stage.IsQuiet) (request : Request)
    {next : Handler} (hnext : Handler.IsQuiet next) :
    Handler.IsQuiet (stage.before request next) := by
  intro run
  rw [run_before]
  exact h request hnext _

theorem isQuiet_foldr_before {stages : List Stage} (h : ∀ stage ∈ stages, stage.IsQuiet)
    (request : Request) :
    Handler.IsQuiet (stages.foldr (fun stage next => stage.before request next) serveOrPass) := by
  -- from the last stage to the first, as the handler is built
  induction stages with
  | nil => exact isQuiet_serveOrPass
  | cons stage stages ih =>
    exact (h stage List.mem_cons_self).before request
      (ih fun s hs => h s (List.mem_cons_of_mem stage hs))

/-- **A chain of stages that send the page server nothing sends it nothing.** -/
theorem Chain.forwarded_start_of_quiet {chain : Chain} (h : chain.IsQuiet) (id : RequestId)
    (trace : Trace) (request : Request) :
    (chain.start id trace request).2.trace.forwarded = trace.forwarded := by
  let entered : Run :=
    { context := { requestId := id }, trace := trace.append [.measured .entered] }
  let finished := (chain.handler request serveOrPass).run entered
  obtain ⟨last, hlast, hconclude⟩ := chain.run_conclude finished.1.decision finished.2
  have hstart : (chain.start id trace request).2 =
      ((chain.conclude finished.1.decision).run finished.2).2 := rfl
  have hentered := (Trace.Alike.refl trace).append (Remarks.measurement .entered)
  calc (chain.start id trace request).2.trace.forwarded
      = last.forwarded := by rw [hstart, hconclude]
    _ = finished.2.trace.forwarded := hlast.forwarded.symm
    _ = entered.trace.forwarded := isQuiet_foldr_before h request entered
    _ = trace.forwarded := hentered.forwarded.symm

/-- A step is a quiet stage if its move is. -/
theorem Step.isQuiet {step : Step}
    (h : ∀ (request : Request) (context : Context) (trace : Trace),
      (step.move request context trace).2.forwarded = trace.forwarded) :
    step.stage.IsQuiet := by
  intro request next hnext run
  obtain ⟨after, halike, hrun⟩ := step.renders request next run (Trace.Alike.refl run.trace)
  have hmoved : after.forwarded = run.trace.forwarded :=
    halike.forwarded.symm.trans (h request run.context run.trace)
  rw [hrun]
  cases (step.move request run.context run.trace).1 with
  | answer response => exact hmoved
  | goOn context => exact (hnext _).trans hmoved

/-! ## Attaching header fields -/

/-- A step attaches no names but the given ones to an answer, whether it answers itself or dresses
the answer of another. -/
structure Step.Attaches (step : Step) (names : List String) : Prop where
  answer : ∀ {request : Request} {context : Context} {trace after : Trace} {response : Response},
    step.move request context trace = (.answer response, after) → response.headers.names ⊆ names
  dress : ∀ (context : Context) {headers : Headers}, headers.names ⊆ names →
    (step.dress context headers).names ⊆ names

/-- A walk attaches no names but those that its steps attach. -/
theorem names_walk_subset {names : List String} {request : Request} {steps : List Step}
    (h : ∀ step ∈ steps, step.Attaches names) :
    ∀ (context : Context) (trace : Trace),
      (walk request steps context trace).response.headers.names ⊆ names := by
  induction steps with
  | nil =>
    intro context trace
    exact List.nil_subset names
  | cons step steps ih =>
    intro context trace
    have hstep := h step List.mem_cons_self
    rcases hmove : step.move request (context.enter step.stage.name) trace with
      ⟨response | onward, after⟩
    · rw [walk_of_answer hmove]
      exact hstep.answer hmove
    · rw [walk_of_goOn hmove]
      exact hstep.dress _ (ih (fun s hs => h s (List.mem_cons_of_mem step hs)) onward after)

theorem Chain.names_start_subset {names : List String} {chain : Chain} {steps : List Step}
    (hstages : chain.stages = steps.map Step.stage) (h : ∀ step ∈ steps, step.Attaches names)
    (id : RequestId) (trace : Trace) (request : Request) :
    (chain.start id trace request).1.headers.names ⊆ names := by
  obtain ⟨after, -, hstart⟩ := Chain.start_eq_walk hstages id trace request
  rw [hstart]
  exact names_walk_subset h _ trace

/-! ## The identifier -/

/-- Whether the only identifier among some header fields, if there is any, is a given one. -/
def HasNoOtherId (id : RequestId) (headers : Headers) : Prop :=
  headers.getAll requestIdHeader = [] ∨
    headers.getAll requestIdHeader = [Text.bytes id.render]

/-- A move that answers without header fields, or goes on with the identifier of a request as it
is. -/
def Move.IsPlain (context : Context) : Move → Prop
  | .answer response => response.headers = {}
  | .goOn onward => onward.requestId = context.requestId

/-- A step leaves the identifier of a request as it is, and dresses an answer with no other. -/
structure Step.KeepsId (step : Step) : Prop where
  move : ∀ (request : Request) (context : Context) (trace : Trace),
    (step.move request context trace).1.IsPlain context
  dress : ∀ (context : Context) {headers : Headers}, HasNoOtherId context.requestId headers →
    HasNoOtherId context.requestId (step.dress context headers)

/-- A walk through such steps ends with the identifier that it started with, and dresses the answer
with no other. -/
theorem id_walk {request : Request} {steps : List Step} (h : ∀ step ∈ steps, step.KeepsId) :
    ∀ (context : Context) (trace : Trace),
      (walk request steps context trace).context.requestId = context.requestId ∧
        HasNoOtherId context.requestId (walk request steps context trace).response.headers := by
  induction steps with
  | nil =>
    intro context trace
    exact ⟨rfl, Or.inl rfl⟩
  | cons step steps ih =>
    intro context trace
    have hstep := h step List.mem_cons_self
    have hplain := hstep.move request (context.enter step.stage.name) trace
    rcases hmove : step.move request (context.enter step.stage.name) trace with
      ⟨response | onward, after⟩
    · rw [hmove] at hplain
      have hnone : response.headers = {} := hplain
      rw [walk_of_answer hmove]
      exact ⟨rfl, Or.inl (by rw [hnone]; rfl)⟩
    · rw [hmove] at hplain
      have honward : onward.requestId = context.requestId := hplain
      obtain ⟨hcontext, hheaders⟩ :=
        ih (fun s hs => h s (List.mem_cons_of_mem step hs)) onward after
      -- an answer is dressed with what the walk ends with
      rw [← hcontext] at hheaders
      have hdressed := hstep.dress _ hheaders
      rw [hcontext, honward] at hdressed
      rw [walk_of_goOn hmove]
      exact ⟨hcontext.trans honward, hdressed⟩

theorem Chain.hasNoOtherId_start {chain : Chain} {steps : List Step}
    (hstages : chain.stages = steps.map Step.stage) (h : ∀ step ∈ steps, step.KeepsId)
    (id : RequestId) (trace : Trace) (request : Request) :
    HasNoOtherId id (chain.start id trace request).1.headers := by
  obtain ⟨after, -, hstart⟩ := Chain.start_eq_walk hstages id trace request
  rw [hstart]
  exact (id_walk h { requestId := id } trace).2

/-! ## The stages there are -/

/-- The stages there are, as steps. -/
inductive Step.IsKnown : Step → Prop
  | gate (gate : Gate) (now : Nat) : IsKnown (gate.step now)
  | ruleCheck (check : RuleCheck) : IsKnown check.step
  | stamp : IsKnown Stamp.step

/-- The names of the header fields that stages attach. -/
def attachedNames : List String :=
  ["cache-control", requestIdHeader]

/-- The stages there are send the page server nothing. -/
theorem Step.IsKnown.isQuiet {step : Step} (h : step.IsKnown) : step.stage.IsQuiet := by
  refine Step.isQuiet fun request context trace => ?_
  cases h with
  | gate gate now => rfl
  | ruleCheck check => exact check.verdict_forwarded request context.claims trace
  | stamp => rfl

theorem Gate.isPlain_move (gate : Gate) (now : Nat) (request : Request) (context : Context) :
    (gate.move now request context).IsPlain context := by
  unfold Gate.move
  split
  · rfl
  · split
    · rfl
    · split
      · rfl
      · rfl

/-- Whoever is not exempt and is answered by the gate is sent away. -/
theorem Gate.isRedirect_of_answer {gate : Gate} {now : Nat} {request : Request} {context : Context}
    {response : Response} (hexempt : gate.isExempt request = false)
    (h : gate.move now request context = .answer response) :
    response.decision.isRedirect = true := by
  cases hsession : gate.resolver now request with
  | ok claims =>
    rw [Gate.move_of_known hexempt hsession] at h
    cases h
  | error error =>
    rw [Gate.move_of_unknown hexempt hsession] at h
    split at h
    · cases h
    · cases h
      rfl

theorem Move.isPlain_sendOr (context : Context) (sent : Option String) :
    (Move.sendOr context sent).IsPlain context := by
  cases sent with
  | none | some location => rfl

/-- The stages there are only decide; whatever they attach, they attach on the way back. -/
theorem Step.IsKnown.isPlain_move {step : Step} (h : step.IsKnown) (request : Request)
    (context : Context) (trace : Trace) : (step.move request context trace).1.IsPlain context := by
  cases h with
  | gate gate now => exact gate.isPlain_move now request context
  | ruleCheck check => exact Move.isPlain_sendOr context _
  | stamp => rfl

theorem Stamp.names_dress_subset (context : Context) {headers : Headers}
    (h : headers.names ⊆ attachedNames) :
    (Stamp.step.dress context headers).names ⊆ attachedNames := by
  refine List.Subset.trans (Headers.names_insert_subset _ requestIdHeader _) ?_
  refine List.cons_subset.2 ⟨by decide, ?_⟩
  refine List.Subset.trans (Headers.names_insert_subset headers "cache-control" _) ?_
  exact List.cons_subset.2 ⟨by decide, h⟩

theorem Step.IsKnown.attaches {step : Step} (h : step.IsKnown) : step.Attaches attachedNames where
  answer := by
    intro request context trace after response hmove
    have hplain := h.isPlain_move request context trace
    rw [hmove] at hplain
    have hnone : response.headers = {} := hplain
    rw [hnone]
    exact List.nil_subset _
  dress context headers hsubset := by
    cases h with
    | gate | ruleCheck => exact hsubset
    | stamp => exact Stamp.names_dress_subset context hsubset

theorem Step.IsKnown.keepsId {step : Step} (h : step.IsKnown) : step.KeepsId where
  move := h.isPlain_move
  dress context headers hid := by
    cases h with
    | gate | ruleCheck => exact hid
    | stamp => exact Or.inr (Headers.getAll_insert_self _ _ _)

/-- A chain of the stages there are, in any order. -/
def Chain.IsBuilt (chain : Chain) : Prop :=
  ∃ steps : List Step, chain.stages = steps.map Step.stage ∧ ∀ step ∈ steps, step.IsKnown

namespace Chain.IsBuilt

variable {chain : Chain}

theorem isQuiet (h : chain.IsBuilt) : chain.IsQuiet := by
  obtain ⟨steps, hstages, hknown⟩ := h
  intro stage hstage
  rw [hstages] at hstage
  obtain ⟨step, hstep, rfl⟩ := List.mem_map.1 hstage
  exact (hknown step hstep).isQuiet

/-- **A chain attaches two names and no others.** -/
theorem names_subset (h : chain.IsBuilt) (id : RequestId) (trace : Trace) (request : Request) :
    (chain.start id trace request).1.headers.names ⊆ attachedNames := by
  obtain ⟨steps, hstages, hknown⟩ := h
  exact Chain.names_start_subset hstages (fun step hstep => (hknown step hstep).attaches) id trace
    request

theorem notMem_names (h : chain.IsBuilt) {name : String} (hname : name ∉ attachedNames)
    (id : RequestId) (trace : Trace) (request : Request) :
    name ∉ (chain.start id trace request).1.headers.names :=
  fun hmem => hname (h.names_subset id trace request hmem)

/-- **A chain attaches no identifier but that of the request.** -/
theorem hasNoOtherId (h : chain.IsBuilt) (id : RequestId) (trace : Trace) (request : Request) :
    HasNoOtherId id (chain.start id trace request).1.headers := by
  obtain ⟨steps, hstages, hknown⟩ := h
  exact Chain.hasNoOtherId_start hstages (fun step hstep => (hknown step hstep).keepsId) id trace
    request

end Chain.IsBuilt

/-! ## The stages of an application -/

namespace Profile

variable {profile : Profile} {resolver : Session.Resolver} {backend : Registration.Backend}
  {now : Nat} {request : Request} {context : Context} {id : RequestId} {trace : Trace}

/-- The chain of an application is built of the stages there are. -/
theorem isBuilt (profile : Profile) (resolver : Session.Resolver)
    (backend : Registration.Backend) (now : Nat) :
    (profile.chain resolver backend now).IsBuilt := by
  refine ⟨profile.steps resolver backend now, profile.stages_eq_map_steps resolver backend now, ?_⟩
  intro step hstep
  rcases List.mem_cons.1 hstep with rfl | hstep
  · exact .gate _ now
  · rcases List.mem_append.1 hstep with hstep | hstep
    · obtain ⟨rules, -, rfl⟩ := Option.map_eq_some_iff.1 (Option.mem_toList.1 hstep)
      exact .ruleCheck _
    · obtain rfl := List.mem_singleton.1 hstep
      exact .stamp

/-- Whoever comes to the stamp gets the identifier. -/
theorem getAll_requestId_stamp (request : Request) (context : Context) (trace : Trace) :
    (walk request [Stamp.step] context trace).response.headers.getAll requestIdHeader =
      [Text.bytes context.requestId.render] :=
  Headers.getAll_insert_self _ _ _

/-- After the gate, whoever is not sent away gets it. -/
theorem getAll_requestId_afterGate
    (h : (walk request (profile.stepsAfterGate backend) context
      trace).response.decision.isRedirect = false) :
    (walk request (profile.stepsAfterGate backend) context trace).response.headers.getAll
      requestIdHeader = [Text.bytes context.requestId.render] := by
  unfold stepsAfterGate at h ⊢
  cases hrules : profile.rules with
  | none => exact getAll_requestId_stamp request context trace
  | some rules =>
    rw [hrules] at h
    let check := profile.ruleCheck backend rules
    let entered := context.enter check.step.stage.name
    have hmove : check.step.move request entered trace =
        (.sendOr entered (check.verdict request entered.claims trace).1,
          (check.verdict request entered.claims trace).2) := rfl
    have hsteps : ((some rules).map fun rules => (profile.ruleCheck backend rules).step).toList ++
        [Stamp.step] = [check.step, Stamp.step] := rfl
    rw [hsteps] at h ⊢
    cases hsent : (check.verdict request entered.claims trace).1 with
    | some location =>
      rw [hsent] at hmove
      rw [walk_of_answer hmove] at h
      cases h
    | none =>
      rw [hsent] at hmove
      rw [walk_of_goOn hmove]
      exact getAll_requestId_stamp request entered _

/-- **The stages of an application attach the identifier for all who are not sent away,** unless
their path is exempt. -/
theorem getAll_requestId_start
    (h : ((profile.chain resolver backend now).start id trace request).1.decision.isRedirect =
      false) :
    ((profile.chain resolver backend now).start id trace request).1.headers.getAll requestIdHeader =
      if (profile.gate resolver).isExempt request then [] else [Text.bytes id.render] := by
  obtain ⟨after, -, hstart⟩ := Chain.start_eq_walk
    (profile.stages_eq_map_steps resolver backend now) id trace request
  let gate := profile.gate resolver
  let entered : Context := Context.enter { requestId := id } "authorization"
  have hmove :
      (gate.step now).move request entered trace = (gate.move now request entered, trace) :=
    rfl
  have hsteps : profile.steps resolver backend now =
      gate.step now :: profile.stepsAfterGate backend := rfl
  have hplain := gate.isPlain_move now request entered
  rw [hstart, hsteps] at h
  rw [hstart, hsteps]
  cases hexempt : gate.isExempt request with
  | true =>
    rw [Gate.move_of_exempt hexempt] at hmove
    rw [walk_of_answer hmove, if_pos rfl]
    rfl
  | false =>
    cases hgate : gate.move now request entered with
    | answer response =>
      rw [hgate] at hmove
      rw [walk_of_answer hmove, Gate.isRedirect_of_answer hexempt hgate] at h
      cases h
    | goOn onward =>
      rw [hgate] at hmove hplain
      have honward : onward.requestId = id := hplain
      rw [walk_of_goOn hmove] at h
      rw [walk_of_goOn hmove, if_neg Bool.false_ne_true, ← honward]
      exact getAll_requestId_afterGate h

end Profile
end Routing
end Gatehouse
