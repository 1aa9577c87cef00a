import Gatehouse.Http.Header
import Gatehouse.Http.Status

/-!
# Decisions

What the gateway does with a request: hand it to the page server under the path it has, hand it over
under another path, or send the caller elsewhere.  A `Response` is a decision together with the
header fields that the stages want to see on whatever goes back to the caller.
-/

set_option autoImplicit false

namespace Gatehouse

/-- What becomes of a request. -/
inductive Decision where
  | passThrough
  | serve (path : String)
  | redirect (location : String) (status : Http.Status)
deriving Repr, DecidableEq

namespace Decision

/-- The word for the kind of a decision. -/
def kind : Decision → String
  | .passThrough => "pass_through"
  | .serve _ => "rewrite"
  | .redirect _ _ => "redirect"

/-- A decision in one line. -/
def render : Decision → String
  | .passThrough => "pass-through"
  | .serve path => "rewrite -> " ++ path
  | .redirect location status => "redirect " ++ toString status.code ++ " -> " ++ location

/-- Whether the caller is sent elsewhere. -/
def isRedirect : Decision → Bool
  | .redirect _ _ => true
  | _ => false

/-- The path under which the page server is asked, if it is asked at all. -/
def effectivePath (requested : String) : Decision → Option String
  | .passThrough => some requested
  | .serve path => some path
  | .redirect _ _ => none

end Decision

/-- A decision and the header fields that go with it. -/
structure Response where
  decision : Decision
  headers : Headers := {}
deriving Repr, DecidableEq

namespace Response

/-- Hand the request over as it is. -/
def passThrough : Response := ⟨.passThrough, {}⟩

/-- Hand the request over under another path. -/
def serve (path : String) : Response := ⟨.serve path, {}⟩

/-- Send the caller elsewhere for now. -/
def redirect (location : String) : Response := ⟨.redirect location .temporaryRedirect, {}⟩

end Response
end Gatehouse
