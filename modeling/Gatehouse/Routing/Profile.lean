import Gatehouse.Routing.Chain
import Gatehouse.Routing.Gate
import Gatehouse.Routing.RuleCheck
import Gatehouse.Routing.Stamp
import Gatehouse.Rule.Named
import Gatehouse.App

/-!
# Profiles

A profile holds what sets one application apart in routing: where it is mounted, which pages need no
role, which paths are exempt, and which rule set it has.  `Profile.chain` makes a chain of it,
always in the same order: the gate, the check of the rules if there are any, and the stamp.
-/

set_option autoImplicit false

namespace Gatehouse
namespace Routing

/-- The settings of one application. -/
structure Profile where
  label : String
  basePath : String
  onboardingPath : String := defaultOnboardingPath
  allowList : List String := []
  exemptPrefixes : List String := defaultExemptPrefixes
  rules : Option Rule.RuleSet := none
  /-- The greatest number of milliseconds that the records may take. -/
  ruleTimeout : Nat := defaultRuleTimeout

namespace Profile

/-- The rule set of an application. -/
def rulesFor : App → Option Rule.RuleSet
  | .administration => some Rule.operations
  | .registration => some Rule.selectOperator
  | .dashboard => none

/-- The profile of an application. -/
def forApp (app : App) : Profile where
  label := Vocabulary.word app
  basePath := app.defaultBasePath
  allowList := ["profile"]
  rules := rulesFor app

/-- The profile of the application with a name. -/
def named? (name : String) : Option Profile :=
  (Vocabulary.ofWord? name).map forApp

/-- The gate of the application. -/
def gate (profile : Profile) (resolver : Session.Resolver) : Gate where
  resolver
  basePath := profile.basePath
  onboardingPath := profile.onboardingPath
  allowList := profile.allowList
  exemptPrefixes := profile.exemptPrefixes

/-- The check of the application's rules. -/
def ruleCheck (profile : Profile) (backend : Registration.Backend) (rules : Rule.RuleSet) :
    RuleCheck where
  app := profile.label
  basePath := profile.basePath
  rules
  backend
  timeout := profile.ruleTimeout

/-- The stages of the application for requests that arrive at a given second. -/
def chain (profile : Profile) (resolver : Session.Resolver) (backend : Registration.Backend)
    (now : Nat) : Chain where
  label := profile.label
  stages := (profile.gate resolver).stage now ::
    ((profile.rules.map fun rules => (profile.ruleCheck backend rules).stage).toList ++
      [Stamp.stage])

/-- A description of the profile. -/
def describe (profile : Profile) : String :=
  Text.record "AppProfile" [("label", Text.quoted profile.label),
    ("base_path", Text.quoted profile.basePath),
    ("onboarding_path", Text.quoted profile.onboardingPath),
    ("allow_list", Text.listed (profile.allowList.map Text.quoted)),
    ("exempt_prefixes", Text.listed (profile.exemptPrefixes.map Text.quoted)),
    ("rules", Text.optional (profile.rules.map fun rules => Text.quoted rules.name)),
    ("rule_timeout", Text.duration profile.ruleTimeout)]

end Profile
end Routing
end Gatehouse
