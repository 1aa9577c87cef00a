import Gatehouse.Rule.Basic

/-!
# Access to operations

Pages about operations are for users whose operator may be worked on.  A page is about operations
when one of its segments is `operations`, wherever it stands; everyone else is sent to the root of
the application.
-/

set_option autoImplicit false

namespace Gatehouse
namespace Rule

/-- The rule set for pages about operations. -/
def operations : RuleSet where
  name := "operations_access"
  protects rest := (segments rest).contains "operations"
  sources := [.current]
  decide
    | some facts =>
      if facts.operator.permitsOperations then .proceed else .redirect "/" none
    | none => .redirect "/" none

end Rule
end Gatehouse
