import Gatehouse.Rule.Basic

/-!
# Selecting an operator

The pages below `select-operator` are for users who have no operator yet.  Whoever belongs to one is
sent to it, and whoever is waiting to be let in is sent to a page that says so.  That page and its
neighbours below `select-operator/received` are not protected, or nobody could see them.
-/

set_option autoImplicit false

namespace Gatehouse
namespace Rule

/-- Where a user is sent who waits to be let in by an operator. -/
def requestAccessPath (operatorId : String) : String :=
  "/select-operator/received/request-access/" ++ operatorId

/-- The rule set for selecting an operator. -/
def selectOperator : RuleSet where
  name := "select_operator"
  protects rest :=
    let parts := segments rest
    parts[0]? == some "select-operator" && parts[1]? != some "received"
  sources := [.current, .pending]
  decide
    | none => .proceed
    | some facts =>
      if facts.access = .approved then .redirect "/my-operator" none
      else if facts.access = .pending ∨ facts.operator = .draft then
        .redirectWith (requestAccessPath facts.operatorId) [("title", facts.legalName)]
      else .proceed

end Rule
end Gatehouse
