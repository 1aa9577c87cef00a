import Gatehouse.Routing.Stage
import Gatehouse.Rule.Basic

/-!
# Checking the rules

The stage that asks the rule set of an application about industry users.  It steps aside for callers
who are not known, for staff, and for paths that the rule set does not protect; for the others it
fetches the records that the rule set needs and does what the rule set decides.

Nothing is let through on a guess: if the records cannot be had, or not in time, the caller is sent
to the root of the application.
-/

set_option autoImplicit false

namespace Gatehouse
namespace Routing

/-- The greatest number of milliseconds that the records may take unless it is configured
otherwise. -/
def defaultRuleTimeout : Nat := 8000

/-- The settings of the stage. -/
structure RuleCheck where
  /-- The application in log lines and measurements. -/
  app : String
  basePath : String
  rules : Rule.RuleSet
  backend : Registration.Backend
  timeout : Nat := defaultRuleTimeout

namespace RuleCheck

/-- The part of the program that log lines of the stage name. -/
def target : String := "portico_middleware::stages::business_rules"

/-- A page of the application as a path of the site. -/
def locate (check : RuleCheck) (page : String) : String :=
  String.ofList (Path.join check.basePath.toList page.toList)

/-- Where a caller is sent whose rules could not be evaluated. -/
def appRoot (check : RuleCheck) : String :=
  check.locate ""

/-- The path of a request as the rule set sees it. -/
def appPath (check : RuleCheck) (request : Request) : String :=
  String.ofList (Path.stripBase check.basePath.toList request.path.toList)

/-- The location of a page with its query. -/
def location (check : RuleCheck) (page : String) (query : Option String) : String :=
  match query with
  | some q => check.locate page ++ "?" ++ q
  | none => check.locate page

/-- Send a caller to the root of the application because there are no records to decide on. -/
def failSafe (check : RuleCheck) (request : Request) (error : Registration.BackendError) :
    Handler := do
  let fault := error.toFault
  let category := Vocabulary.word fault.category
  Routed.traced (Traced.measure (.failSafe check.app category))
  Routed.log .warn target "business rules unavailable, fail-safe redirect"
    [("http.path", Json.str request.path), ("rule_set", Json.str check.rules.name),
      ("category", Json.str category), ("error", Json.str fault.message)]
  return .redirect check.appRoot

/-- The records for a user, or why there are none. -/
def facts (check : RuleCheck) (userId : String) : Traced Registration.Result := do
  match ← Registration.fetch check.backend userId check.rules.sources (some check.timeout) with
  | some result => return result
  | none => return .error (.timeout check.timeout)

/-- Do what the rule set has decided. -/
def conclude (check : RuleCheck) (claims : Claims) (next : Handler) :
    Rule.Outcome → Handler
  | .proceed => do
    Routed.log .debug target "rules satisfied" [("rule_set", Json.str check.rules.name)]
    next
  | .redirect page query => do
    let location := check.location page query
    Routed.log .debug target "rule redirect"
      [("rule_set", Json.str check.rules.name), ("user_id", Json.str claims.userId),
        ("location", Json.str location)]
    return .redirect location

/-- Check the rules for an industry user on a protected path. -/
def check (check : RuleCheck) (request : Request) (claims : Claims) (next : Handler) :
    Handler := do
  match ← Routed.traced (check.facts claims.userId) with
  | .ok facts => check.conclude claims next (check.rules.decide facts)
  | .error error => check.failSafe request error

/-- What the stage does with a request. -/
def process (check : RuleCheck) (request : Request) (next : Handler) : Handler := do
  match (← Routed.context).claims with
  | none => next
  | some claims =>
    if !claims.isIndustry then
      Routed.log .debug target "staff caller, rules skipped" []
      next
    else if check.rules.protects (check.appPath request) then check.check request claims next
    else next

/-- The check as a stage. -/
def stage (check : RuleCheck) : Stage where
  name := "business_rules"
  process := check.process

end RuleCheck
end Routing
end Gatehouse
