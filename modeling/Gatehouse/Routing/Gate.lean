import Gatehouse.Routing.Stage
import Gatehouse.Session.Resolver

/-!
# The gate

The first stage of every chain asks who is calling.  Two kinds of paths are not its business and
pass at once: the page where people sign in, with everything below it, and the paths with an
*exempt* prefix.  For every other request the session is looked up.

* A caller with a session goes on, and unless the last segment of the path is on the *allow list*,
  the page under the caller's namespace is asked for.
* A caller without a session goes on only if the last segment is on the allow list, and is otherwise
  sent to sign in.

So nobody who is unknown has a claim or a namespace recorded, and later stages must expect that
there are none.
-/

set_option autoImplicit false

namespace Gatehouse
namespace Routing

/-- Where callers without a session are sent unless it is configured otherwise. -/
def defaultOnboardingPath : String := "/onboarding"

/-- The prefixes of paths that pass unless others are configured. -/
def defaultExemptPrefixes : List String := ["/_next/", "/favicon.ico"]

/-- The settings of the gate. -/
structure Gate where
  resolver : Session.Resolver
  basePath : String
  onboardingPath : String := defaultOnboardingPath
  /-- The last segments of paths for which no role is needed. -/
  allowList : List String := []
  exemptPrefixes : List String := defaultExemptPrefixes

namespace Gate

/-- The part of the program that log lines of the gate name. -/
def target : String := "portico_middleware::stages::authorization"

/-- Whether a path is a page or stands below it. -/
def isAtOrBelow (page path : List Char) : Bool :=
  match Path.afterStart? page path with
  | some rest => Path.atBoundary rest
  | none => false

/-- Whether a path is where people sign in, or stands below it.  There is no such path if all paths
stand below it. -/
def isOnboarding (gate : Gate) (path : List Char) : Bool :=
  let page := Path.trimEnd gate.onboardingPath.toList
  !page.isEmpty && isAtOrBelow page path

/-- Whether a request passes without a look at its session. -/
def isExempt (gate : Gate) (request : Request) : Bool :=
  let path := request.path.toList
  gate.isOnboarding path || gate.exemptPrefixes.any fun start => start.toList.isPrefixOf path

/-- Whether the last segment of a request is on the allow list. -/
def isAllowListed (gate : Gate) (request : Request) : Bool :=
  match request.finalSegment? with
  | some segment => gate.allowList.contains segment
  | none => false

/-- The path under which the page server keeps what a caller asks for. -/
def servedPath (gate : Gate) (claims : Claims) (request : Request) : String :=
  String.ofList (Path.underNamespace gate.basePath.toList request.path.toList
    claims.namespacePath.toList)

/-- Send a caller without a session to sign in. -/
def reject (gate : Gate) (request : Request) (error : SessionError) : Handler := do
  let path := ("http.path", Json.str request.path)
  match error with
  | .absent => Routed.log .debug target "no session, redirecting to onboarding" [path]
  | _ =>
    Routed.log .warn target "session rejected, redirecting to onboarding"
      [path, ("reason", Json.str error.reason), ("error", Json.str error.message)]
  return .redirect gate.onboardingPath

/-- Let a known caller in. -/
def letIn (gate : Gate) (request : Request) (claims : Claims) : Routed Unit := do
  if !gate.isAllowListed request then
    let path := gate.servedPath claims request
    Routed.log .debug target "role rewrite"
      [("http.path", Json.str request.path), ("rewrite", Json.str path)]
    Routed.updateContext fun c => { c with served := some path }
  Routed.log .debug target "authenticated"
    [("user_id", Json.str claims.userId), ("namespace", Json.str claims.namespacePath)]
  Routed.updateContext fun c => { c with claims := some claims }

/-- What the gate does with a request that arrives at a given second. -/
def process (gate : Gate) (now : Nat) (request : Request) (next : Handler) : Handler := do
  let path := ("http.path", Json.str request.path)
  if gate.isExempt request then
    Routed.log .debug target "exempt path, not intercepted" [path]
    return .passThrough
  match gate.resolver now request with
  | .ok claims =>
    gate.letIn request claims
    next
  | .error error =>
    if gate.isAllowListed request then
      Routed.log .debug target "allow-listed path, continuing unauthenticated" [path]
      next
    else gate.reject request error

/-- The gate as a stage. -/
def stage (gate : Gate) (now : Nat) : Stage where
  name := "authorization"
  process := gate.process now

end Gate
end Routing
end Gatehouse
