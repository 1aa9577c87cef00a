import Gatehouse.Routing.Stage

/-!
# Stamping responses

The stage that puts two header fields on whatever the rest of the chain answers: the answer must not
be stored, because it depends on the caller, and it carries the identifier of the request.
-/

set_option autoImplicit false

namespace Gatehouse
namespace Routing
namespace Stamp

/-- The fields with the two that every answer carries. -/
def apply (id : RequestId) (headers : Headers) : Headers :=
  (headers.insert "cache-control" (Text.bytes "no-store")).insert requestIdHeader
    (Text.bytes id.render)

/-- The stage. -/
def stage : Stage where
  name := "response"
  process _ next := do
    let response ← next
    return { response with headers := apply (← Routed.context).requestId response.headers }

end Stamp
end Routing
end Gatehouse
