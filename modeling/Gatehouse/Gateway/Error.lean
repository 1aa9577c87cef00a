import Gatehouse.Config.Error
import Gatehouse.Http.Status
import Gatehouse.Json.Record
import Gatehouse.Registration.Backend
import Gatehouse.Telemetry.Settings

/-!
# Faults of the gateway

What can go wrong in the gateway itself, as opposed to a request that is turned away.  A fault has a
category, and callers are told of it in an `Envelope`: the category, the text, and the identifier of
the request if there is one.
-/

set_option autoImplicit false

namespace Gatehouse

/-- What can go wrong in the gateway. -/
inductive GatewayError where
  | config (cause : String)
  /-- The page server did not answer, or not with a page; it may have given a status. -/
  | pages (cause : String) (status : Option Nat)
  | badRequest (cause : String)
  | server (cause : String)
  | configuration (cause : ConfigError)
  | backend (cause : Registration.BackendError)
  | telemetry (cause : TelemetryError)
  | io (cause : String)
deriving Repr, DecidableEq

namespace GatewayError

/-- The text of the fault. -/
def message : GatewayError → String
  | .config c => "Configuration error: " ++ c
  | .pages c _ => "Upstream error: " ++ c
  | .badRequest c => "Bad request: " ++ c
  | .server c => "Server error: " ++ c
  | .configuration c => c.message
  | .backend c => "Backend error: " ++ c.message
  | .telemetry c => c.message
  | .io c => "I/O error: " ++ c

/-- The number of the status that a caller sees. -/
def statusCode : GatewayError → Nat
  | .pages _ status => status.getD 502
  | .backend _ => 502
  | .badRequest _ => 400
  | .config _ | .configuration _ | .server _ | .telemetry _ | .io _ => 500

/-- Whether it may help to try again. -/
def isRecoverable : GatewayError → Bool
  | .pages _ _ | .backend _ => true
  | _ => false

/-- The word for the kind of a fault. -/
def category : GatewayError → String
  | .config _ | .configuration _ => "config"
  | .pages _ _ => "upstream"
  | .badRequest _ => "bad_request"
  | .server _ => "server"
  | .backend _ => "backend"
  | .telemetry _ => "telemetry"
  | .io _ => "io"

end GatewayError

/-- What a caller is told of a fault. -/
structure Envelope where
  error : String
  message : String
  requestId : Option String := none
deriving Repr, DecidableEq

namespace Envelope

/-- The envelope of a fault. -/
def ofError (e : GatewayError) : Envelope where
  error := e.category
  message := e.message

/-- The envelope in one line. -/
def render (e : Envelope) : String :=
  "[" ++ e.error ++ "] " ++ e.message

/-- The envelope as an object. -/
def toJson (e : Envelope) : Json :=
  Json.obj ([("error", Json.str e.error), ("message", Json.str e.message)] ++
    (e.requestId.map fun id => ("request_id", Json.str id)).toList)

/-- The fields of an envelope. -/
def layout : Json.Layout where
  names := [["error"], ["message"], ["request_id"]]

/-- The envelope of a tree. -/
def ofJson? (v : Json) : Option Envelope := do
  let s ← Json.slots? .json layout v
  let error ← s.required? 0 Json.text?
  let message ← s.required? 1 Json.text?
  let requestId ← s.optional? 2 Json.text?
  return { error, message, requestId }

end Envelope
end Gatehouse
