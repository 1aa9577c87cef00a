import Gatehouse.Http.Exchange
import Gatehouse.Json.Basic
import Gatehouse.Trace

/-!
# Health

Two questions can be asked of a running gateway.  Whether it is alive: then it answers, and that is
all.  Whether it is ready: then it listens for requests, and the page server has just answered, with
whatever status but that of a server in trouble.  What the page server last answered is remembered.
-/

set_option autoImplicit false

namespace Gatehouse
namespace Gateway

/-- What a gateway remembers of its own state. -/
structure Health where
  listening : Bool := false
  /-- The last look at the page server, with the status that it answered, if it did. -/
  lastCheck : Option (Option Http.Status) := none
deriving Repr, DecidableEq

/-- The result of one check. -/
inductive CheckResult where
  | pass (detail : String)
  | fail (reason : String)
deriving Repr, DecidableEq

/-- One check, and how many milliseconds it took if it was timed. -/
structure Check where
  name : String
  result : CheckResult
  elapsed : Option Nat := none
deriving Repr, DecidableEq

namespace Check

/-- Whether a check has passed. -/
def passed (c : Check) : Bool :=
  match c.result with
  | .pass _ => true
  | .fail _ => false

/-- A check as an object. -/
def toJson (c : Check) : Json :=
  let result := match c.result with
    | .pass detail => [("result", Json.str "pass"), ("detail", Json.str detail)]
    | .fail reason => [("result", Json.str "fail"), ("reason", Json.str reason)]
  Json.obj (("name", Json.str c.name) :: result ++
    (c.elapsed.map fun t => ("elapsed_ms", Json.nat t)).toList)

end Check

/-- Whether a gateway is ready that has made some checks. -/
def isReady (checks : List Check) : Bool :=
  checks.all Check.passed

/-- Checks as an object. -/
def readinessJson (checks : List Check) : Json :=
  Json.obj [("status", Json.str (if isReady checks then "ready" else "not_ready")),
    ("checks", .array (checks.map Check.toJson))]

/-- The version of the gateway. -/
def version : String := "0.1.0"

/-- That a gateway is alive, as an object. -/
def livenessJson (app : String) (uptimeSeconds : Nat) : Json :=
  Json.obj [("status", Json.str "healthy"), ("app", Json.str app),
    ("uptime_seconds", Json.nat uptimeSeconds), ("version", Json.str version)]

namespace Health

/-- The greatest number of milliseconds that the page server may take when it is checked. -/
def checkTimeout : Nat := 5000

/-- The check whether the gateway listens. -/
def listenerCheck (h : Health) : Check where
  name := "listener"
  result := if h.listening then .pass "accepting connections" else .fail "not bound yet"

/-- What comes of a status of the page server, or of why there is none. -/
def judge : Except Http.ClientError Http.Status → CheckResult
  | .ok status =>
    let text := "page server answered " ++ status.render
    if status.isServerError then .fail text else .pass text
  | .error e => .fail ("page server unreachable: " ++ e.message)

/-- Ask the page server for its front page: the status, and how many milliseconds that took. -/
def askPages (pagesUrl : String) (peer : Http.Peer) :
    Traced (Except Http.ClientError Http.Status × Nat) := do
  match (Http.Outgoing.to "GET" pagesUrl).bind Http.Outgoing.ready with
  | .error e => return (.error e, 0)
  | .ok request =>
    let before := (← get).forwarded
    Traced.note [.forwarded request]
    let (received, time) := Http.exchange peer checkTimeout before request
    return (received.map Http.Received.status, time)

/-- The checks of readiness, and what is remembered after them. -/
def readiness (h : Health) (pagesUrl : String) (peer : Http.Peer) :
    Traced (List Check × Health) := do
  let (status, time) ← askPages pagesUrl peer
  let pages : Check := { name := "upstream", result := judge status, elapsed := some time }
  return ([h.listenerCheck, pages], { h with lastCheck := some status.toOption })

end Health
end Gateway
end Gatehouse
