import Gatehouse.Http.Status
import Gatehouse.Identity

/-!
# Faults

What can keep the gateway from deciding a request.  A fault falls into one of five categories, and
the category alone says which status it is reported with and whether the caller can recover from it
by signing in or by coming back later.
-/

set_option autoImplicit false

namespace Gatehouse

/-- The categories of faults. -/
inductive FaultCategory where
  | authAbsent
  | invalidClaims
  | backendUnavailable
  | configurationMissing
  | internal
deriving Repr, DecidableEq

instance : Vocabulary FaultCategory where
  all := [.authAbsent, .invalidClaims, .backendUnavailable, .configurationMissing, .internal]
  word
    | .authAbsent => "auth_absent"
    | .invalidClaims => "invalid_claims"
    | .backendUnavailable => "backend_unavailable"
    | .configurationMissing => "configuration_missing"
    | .internal => "internal"

namespace FaultCategory

/-- The status with which a fault of this category is reported. -/
def status : FaultCategory → Http.Status
  | .authAbsent | .invalidClaims => .unauthorized
  | .backendUnavailable => .badGateway
  | .configurationMissing | .internal => .internalServerError

/-- Whether a caller can recover from a fault of this category. -/
def isRecoverable : FaultCategory → Bool
  | .authAbsent | .invalidClaims | .backendUnavailable => true
  | .configurationMissing | .internal => false

end FaultCategory

/-- What can keep the gateway from deciding a request. -/
inductive Fault where
  | authAbsent (reason : String)
  | invalidClaims (cause : ClaimsError)
  | backendUnavailable (message : String)
  | configurationMissing (key : String)
  | internal (message : String)
deriving Repr, DecidableEq

namespace Fault

/-- The category of a fault. -/
def category : Fault → FaultCategory
  | .authAbsent _ => .authAbsent
  | .invalidClaims _ => .invalidClaims
  | .backendUnavailable _ => .backendUnavailable
  | .configurationMissing _ => .configurationMissing
  | .internal _ => .internal

/-- The text of a fault. -/
def message : Fault → String
  | .authAbsent r => "authentication absent: " ++ r
  | .invalidClaims c => "invalid session claims: " ++ c.message
  | .backendUnavailable m => "backend unavailable: " ++ m
  | .configurationMissing k => "missing configuration: " ++ k
  | .internal m => "internal error: " ++ m

end Fault
end Gatehouse
