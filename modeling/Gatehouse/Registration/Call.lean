import Gatehouse.Vocabulary

/-!
# Calls to the registration backend

The backend can be asked for two records of a user: the *current* one, which says to which operator
the user belongs, and the *pending* one, which says which operator the user has asked to join.
-/

set_option autoImplicit false

namespace Gatehouse
namespace Registration

/-- Which record of a user is asked for. -/
inductive Endpoint where
  | current
  | pending
deriving Repr, DecidableEq

instance : Vocabulary Endpoint where
  all := [.current, .pending]
  word
    | .current => "current"
    | .pending => "pending"

/-- Where the record stands below the address of the backend. -/
def Endpoint.path (e : Endpoint) : String :=
  "/registration/user-operators/" ++ Vocabulary.word e

/-- A question to the backend. -/
structure Call where
  endpoint : Endpoint
  userId : String
deriving Repr, DecidableEq

end Registration
end Gatehouse
