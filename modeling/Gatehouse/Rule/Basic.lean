import Gatehouse.Path
import Gatehouse.Registration.Backend
import Gatehouse.Url.Form

/-!
# Rule sets

An application may have one *rule set*.  It protects a family of paths, says which records it needs,
and decides what a user with such a record, or with none, may do there.  Paths are relative to the
application: the base path has been taken off before a rule set sees them.
-/

set_option autoImplicit false

namespace Gatehouse
namespace Rule

/-- What a rule set decides. -/
inductive Outcome where
  /-- The user may go on. -/
  | proceed
  /-- The user is sent to another page of the application, with a query if there is one. -/
  | redirect (path : String) (query : Option String)
deriving Repr, DecidableEq

namespace Outcome

/-- A redirect with names and values in its query; where nothing is written there is no query. -/
def redirectWith (path : String) (params : List (String × String)) : Outcome :=
  let query := Url.Form.render params
  .redirect path (if query.isEmpty then none else some query)

end Outcome

/-- A family of protected paths and what may be done there. -/
structure RuleSet where
  name : String
  /-- Whether a path of the application belongs to the family. -/
  protects : String → Bool
  /-- The records that are looked for, until one is found. -/
  sources : List Registration.Endpoint
  /-- What is decided for a record, or for there being none. -/
  decide : Option Facts → Outcome

/-- The segments of a path of the application. -/
def segments (rest : String) : List String :=
  (Path.segments rest.toList).map String.ofList

end Rule
end Gatehouse
