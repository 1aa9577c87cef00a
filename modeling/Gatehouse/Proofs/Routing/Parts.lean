import Gatehouse.Proofs.Routing.Footprint

/-!
# Chains of any stages

The stages of an application stand in one order, the gate in front.  But a chain can be put together
of the three kinds of stages in any order, and can have as many of each as one likes, each with
settings of its own.  A `Part` is such a stage as a value, so that statements about all chains are
statements about all lists of parts.

* `Chain.ofParts` — the chain of some parts; `Profile.chain_eq_ofParts` — the chain of an
  application is one of these.
* `Chain.start_ofParts` — its run is the walk through the steps of the parts.
* `callers` — the callers whom the gates of a chain find for a request.
-/

set_option autoImplicit false

namespace Gatehouse
namespace Routing

/-- A stage with its settings. -/
inductive Part where
  /-- The gate, for requests that arrive at a given second. -/
  | gate (settings : Gate) (now : Nat)
  | ruleCheck (settings : RuleCheck)
  | stamp

namespace Part

/-- A part as a step. -/
def step : Part → Step
  | .gate settings now => settings.step now
  | .ruleCheck settings => settings.step
  | .stamp => Stamp.step

/-- A part as a stage. -/
def stage (part : Part) : Stage :=
  part.step.stage

/-- The caller whom a part finds for a request, if it looks for one. -/
def caller? (request : Request) : Part → Option Claims
  | .gate settings now => (settings.resolver now request).toOption
  | .ruleCheck _ | .stamp => none

/-- The path that a part records for a request if it lets it go on. -/
def recorded? (request : Request) : Part → Option String
  | .gate settings now =>
    if settings.isAllowListed request then none
    else
      (settings.resolver now request).toOption.map fun claims => settings.servedPath claims request
  | .ruleCheck _ | .stamp => none

theorem isKnown (part : Part) : part.step.IsKnown := by
  cases part with
  | gate settings now => exact .gate settings now
  | ruleCheck settings => exact .ruleCheck settings
  | stamp => exact .stamp

/-- **Going on changes nothing but the caller and the recorded path,** and these only where a part
has found or recorded one. -/
theorem onward_eq {part : Part} {request : Request} {context onward : Context} {trace after : Trace}
    (h : part.step.move request context trace = (.goOn onward, after)) :
    onward = { context with
      claims := (part.caller? request).or context.claims
      served := (part.recorded? request).or context.served } := by
  cases part with
  | gate settings now =>
    have hmove : settings.move now request context = .goOn onward := congrArg Prod.fst h
    rw [caller?, recorded?]
    cases hexempt : settings.isExempt request with
    | true =>
      rw [Gate.move_of_exempt hexempt] at hmove
      cases hmove
    | false =>
      cases hsession : settings.resolver now request with
      | ok claims =>
        rw [Gate.move_of_known hexempt hsession] at hmove
        cases hmove
        cases hlisted : settings.isAllowListed request with
        | true | false => simp [Gate.admitted, hlisted, Except.toOption]
      | error error =>
        rw [Gate.move_of_unknown hexempt hsession] at hmove
        split at hmove
        · cases hmove
          simp [Except.toOption]
        · cases hmove
  | ruleCheck settings =>
    have hmove : Move.sendOr context (settings.verdict request context.claims trace).1 =
        .goOn onward := congrArg Prod.fst h
    cases hsent : (settings.verdict request context.claims trace).1 with
    | none =>
      rw [hsent] at hmove
      cases hmove
      rfl
    | some location =>
      rw [hsent] at hmove
      cases hmove
  | stamp =>
    cases h
    rfl

end Part

/-- The callers whom some parts find for a request. -/
def callers (request : Request) (parts : List Part) : List Claims :=
  parts.filterMap (Part.caller? request)

namespace Chain

/-- The chain of some parts. -/
def ofParts (label : String) (parts : List Part) : Chain where
  label
  stages := parts.map Part.stage

variable {label : String} {parts : List Part}

theorem stages_ofParts (label : String) (parts : List Part) :
    (ofParts label parts).stages = (parts.map Part.step).map Step.stage :=
  List.map_map.symm

/-- The run of a chain of parts is the walk through their steps. -/
theorem start_ofParts (label : String) (parts : List Part) (id : RequestId) (trace : Trace)
    (request : Request) :
    ∃ after,
      (walk request (parts.map Part.step) { requestId := id } trace).trace.Alike after ∧
      (ofParts label parts).start id trace request =
        ((walk request (parts.map Part.step) { requestId := id } trace).response,
          { context := (walk request (parts.map Part.step) { requestId := id } trace).context
            trace := after }) :=
  start_eq_walk (stages_ofParts label parts) id trace request

/-- A walk through parts ends with the identifier that it started with. -/
theorem requestId_walk (request : Request) (parts : List Part) (context : Context) (trace : Trace) :
    (walk request (parts.map Part.step) context trace).context.requestId = context.requestId := by
  refine (id_walk (fun step hstep => ?_) context trace).1
  obtain ⟨part, -, rfl⟩ := List.mem_map.1 hstep
  exact part.isKnown.keepsId

end Chain

/-! ## Applications -/

namespace Profile

/-- The stages of an application as parts. -/
def parts (profile : Profile) (resolver : Session.Resolver) (backend : Registration.Backend)
    (now : Nat) : List Part :=
  .gate (profile.gate resolver) now ::
    ((profile.rules.map fun rules => .ruleCheck (profile.ruleCheck backend rules)).toList ++
      [.stamp])

/-- The chain of an application is a chain of parts. -/
theorem chain_eq_ofParts (profile : Profile) (resolver : Session.Resolver)
    (backend : Registration.Backend) (now : Nat) :
    profile.chain resolver backend now =
      Chain.ofParts profile.label (profile.parts resolver backend now) := by
  unfold chain parts Chain.ofParts
  cases profile.rules with
  | none | some rules => rfl

/-- The only caller whom an application finds is the one that the session is of. -/
theorem callers_parts (profile : Profile) (resolver : Session.Resolver)
    (backend : Registration.Backend) (now : Nat) (request : Request) :
    callers request (profile.parts resolver backend now) =
      (resolver now request).toOption.toList := by
  unfold callers parts
  cases profile.rules with
  | none | some rules =>
    cases hsession : resolver now request with
    | ok claims => simp [Part.caller?, gate, hsession, Except.toOption]
    | error error => simp [Part.caller?, gate, hsession, Except.toOption]

end Profile
end Routing
end Gatehouse
