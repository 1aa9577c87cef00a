import Gatehouse.Decision
import Gatehouse.Request
import Gatehouse.RequestId
import Gatehouse.Identity
import Gatehouse.Trace

/-!
# Stages

A request passes through *stages*.  A stage is given what comes after it as a computation, the
*next* handler, and either runs it once and returns its response, perhaps with more header fields,
or answers by itself, and then nothing after it happens.

What the stages know of one request beside the request itself is in its `Context`: who the caller
is, under which path the page server will be asked, and which stages have been entered.  A handler
works on the context and the trace of the request, which together are its `Run`.
-/

set_option autoImplicit false

namespace Gatehouse
namespace Routing

/-- What the stages know of a request. -/
structure Context where
  requestId : RequestId
  claims : Option Claims := none
  /-- The path under which the page server is to be asked. -/
  served : Option String := none
  /-- The names of the stages entered so far, in order. -/
  visited : List String := []
deriving DecidableEq

/-- The state of one request. -/
structure Run where
  context : Context
  trace : Trace := {}

/-- A computation on the state of a request. -/
abbrev Routed (α : Type) := StateM Run α

/-- Whatever answers a request. -/
abbrev Handler := Routed Response

namespace Routed

/-- The context of the request. -/
def context : Routed Context := do
  return (← get).context

/-- A change of the context. -/
def updateContext (f : Context → Context) : Routed Unit :=
  modify fun run => { run with context := f run.context }

/-- A computation that only adds to the trace. -/
def traced {α : Type} (t : Traced α) : Routed α := fun run =>
  let (a, trace) := t.run run.trace
  (a, { run with trace })

/-- Write a log line that names the request. -/
def log (level : LogLevel) (target message : String) (fields : List (String × Json)) :
    Routed Unit := do
  let id := ("request_id", Json.str (← context).requestId.render)
  traced (Traced.log level target message (id :: fields))

end Routed

/-- One step in the routing of a request. -/
structure Stage where
  name : String
  process : Request → Handler → Handler

/-- The stage in front of a handler.  Entering it is noted in the context. -/
def Stage.before (stage : Stage) (request : Request) (next : Handler) : Handler := do
  Routed.updateContext fun c => { c with visited := c.visited ++ [stage.name] }
  stage.process request next

/-- The end of the stages: the path recorded in the context, if there is one. -/
def serveOrPass : Handler := do
  match (← Routed.context).served with
  | some path => return .serve path
  | none => return .passThrough

end Routing
end Gatehouse
