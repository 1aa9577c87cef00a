import Gatehouse.Routing.Stage
import Gatehouse.Text.Quoted

/-!
# Chains

A chain is a list of stages in the order in which a request passes through them.  `Chain.handler`
builds the handler for a request from the last stage to the first, around a handler that ends it; so
each stage alone decides whether those after it run.  `Chain.process` runs it, and counts and logs
the decision.
-/

set_option autoImplicit false

namespace Gatehouse
namespace Routing

/-- Stages in order, under the name of their application. -/
structure Chain where
  label : String
  stages : List Stage

namespace Chain

/-- The part of the program that log lines of a chain name. -/
def target : String := "portico_middleware::chain"

/-- The names of the stages, in order. -/
def stageNames (chain : Chain) : List String :=
  chain.stages.map Stage.name

/-- The stages around a handler that ends them. -/
def handler (chain : Chain) (request : Request) (terminal : Handler) : Handler :=
  chain.stages.foldr (fun stage next => stage.before request next) terminal

/-- Count and log what has been decided. -/
def conclude (chain : Chain) (decision : Decision) : Routed Unit := do
  Routed.traced (Traced.measure (.decision chain.label decision.kind))
  Routed.log .debug target "chain completed"
    [("app", Json.str chain.label), ("decision", Json.str decision.render),
      ("stages", Json.str (Text.listed ((← Routed.context).visited.map Text.quoted)))]
  Routed.traced (Traced.measure .left)

/-- The chain's response to a request, with a handler that ends it. -/
def processWith (chain : Chain) (request : Request) (terminal : Handler) : Handler := do
  Routed.traced (Traced.measure .entered)
  let response ← chain.handler request terminal
  chain.conclude response.decision
  return response

/-- The chain's response to a request. -/
def process (chain : Chain) (request : Request) : Handler :=
  chain.processWith request serveOrPass

/-- A description of the chain. -/
def describe (chain : Chain) : String :=
  Text.record "StageChain" [("label", Text.quoted chain.label),
    ("stages", Text.listed (chain.stageNames.map Text.quoted))]

end Chain
end Routing
end Gatehouse
