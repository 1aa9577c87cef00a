import Gatehouse.Rule.Operations
import Gatehouse.Rule.SelectOperator

/-!
# Rule sets by name
-/

set_option autoImplicit false

namespace Gatehouse
namespace Rule

/-- All rule sets. -/
def all : List RuleSet := [operations, selectOperator]

/-- The rule set of a name. -/
def named? (name : String) : Option RuleSet :=
  all.find? fun rules => rules.name == name

end Rule
end Gatehouse
