import Gatehouse.Identity
import Gatehouse.Text.Base64Url

/-!
# Why there is no session

A request without a usable session is told apart by cause: it carries no credential at all, or one
that has expired, or one that is not a proper token, or a proper token about a caller who cannot
exist.
-/

set_option autoImplicit false

namespace Gatehouse
namespace Session

/-- What can be wrong with a token. -/
inductive TokenFault where
  /-- It does not have three parts. -/
  | parts
  /-- A part is not Base64. -/
  | base64 (cause : Text.Base64Url.DecodeError)
  /-- A part does not hold what it should. -/
  | json
  /-- It is signed in another way. -/
  | algorithm
  /-- The signature is not that of its first two parts. -/
  | signature
  /-- It is meant for somebody else. -/
  | audience
deriving Repr, DecidableEq

/-- The text of a fault. -/
def TokenFault.message : TokenFault → String
  | .parts => "InvalidToken"
  | .base64 e => "Base64 error: " ++ e.message
  | .json => "JSON error"
  | .algorithm => "InvalidAlgorithm"
  | .signature => "InvalidSignature"
  | .audience => "InvalidAudience"

end Session

/-- Why a request has no usable session. -/
inductive SessionError where
  | absent
  | expired
  | malformed (fault : Session.TokenFault)
  | invalidClaims (cause : ClaimsError)
deriving Repr, DecidableEq

namespace SessionError

/-- The word for a cause. -/
def reason : SessionError → String
  | .absent => "absent"
  | .expired => "expired"
  | .malformed _ => "malformed"
  | .invalidClaims _ => "invalid_claims"

/-- The text of a cause. -/
def message : SessionError → String
  | .absent => "no session credential"
  | .expired => "session expired"
  | .malformed f => "malformed session token: " ++ f.message
  | .invalidClaims c => c.message

end SessionError
end Gatehouse
