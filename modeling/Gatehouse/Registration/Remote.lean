import Gatehouse.Http.Following
import Gatehouse.Json.Printer
import Gatehouse.Json.Reader
import Gatehouse.Path
import Gatehouse.Registration.Backend

/-!
# Records of another server

The backend that people sign up with.  It is asked for one record at a time, and told for whom in
the `authorization` field, as a JSON object with the user's identifier as its only member.  If there
is a name or a password in the URL of the backend, a value for them stands in front of that in the
same field.

The client goes where a reply sends, unlike the client of the page server, so the reply that counts
is the last one.  That it has no record is an answer like any other; every other status that does
not mean success is a failure, and so is a body that holds no record.
-/

set_option autoImplicit false

namespace Gatehouse
namespace Registration

/-- The backend as it is reached over the network. -/
structure Remote where
  apiUrl : String
  /-- The greatest number of milliseconds that one call may take. -/
  timeout : Nat
  peer : Http.Peer

namespace Remote

/-- The part of the program that log lines of the backend name. -/
def target : String := "portico_middleware::backend"

/-- The backend at a URL; slashes at its end do not count. -/
def atUrl (apiUrl : String) (timeout : Nat) (peer : Http.Peer) : Remote where
  apiUrl := String.ofList (Path.trimEnd apiUrl.toList)
  timeout
  peer

/-- The URL of a call. -/
def url (r : Remote) (call : Call) : String :=
  r.apiUrl ++ call.endpoint.path

/-- What tells the backend for whom it is asked. -/
def identity (userId : String) : String :=
  (Json.obj [("user_guid", Json.str userId)]).render

/-- The request of a call. -/
def request (r : Remote) (call : Call) : Except Http.ClientError Http.Outgoing := do
  let bare ← Http.Outgoing.to "GET" (r.url call)
  match Headers.value? (Text.bytes (identity call.userId)) with
  | none => throw (.unbuildable none)
  | some identity =>
    let headers := ((bare.headers.append "authorization" identity).append "cache-control"
      (Text.bytes "no-store")).append "accept" (Text.bytes "application/json")
    Http.Outgoing.ready { bare with headers }

/-- The record in a body. -/
def facts? (body : List UInt8) : Option Facts :=
  (Json.parseBytes body).bind Facts.ofJson?

/-- The result that a reply stands for. -/
def interpret (endpoint : Endpoint) (r : Http.Received) : Result :=
  if r.status = .notFound then .ok none
  else if !r.status.isSuccess then .error (.status endpoint r.status.code)
  else
    match r.body with
    | .error e => .error (.request endpoint e.message)
    | .ok body =>
      match facts? body with
      | some f => .ok (some f)
      | none => .error (.payload endpoint "not a record")

/-- The measurement of a call. -/
def measured (endpoint : Endpoint) (result : Result) (milliseconds : Nat) : Event :=
  .measured (.fetch (Vocabulary.word endpoint) result.toBool milliseconds)

/-- The log line of a call that was answered. -/
def responded (endpoint : Endpoint) (status : Http.Status) : Event :=
  .logged
    { level := .debug
      target
      message := "backend responded"
      fields := [("endpoint", Json.str (Vocabulary.word endpoint)),
        ("status", Json.nat status.code)] }

@[simp] theorem measured_isRemark (endpoint : Endpoint) (result : Result) (milliseconds : Nat) :
    (measured endpoint result milliseconds).isRemark = true := rfl

@[simp] theorem responded_isRemark (endpoint : Endpoint) (status : Http.Status) :
    (responded endpoint status).isRemark = true := rfl

/-- The answer that is made of what comes back in the end, and of how many milliseconds that
takes. -/
def conclude (endpoint : Endpoint) : Except Http.ClientError Http.Received × Nat → Answer
  | (.error e, time) =>
    let result : Result := .error (.request endpoint e.message)
    { result, after := some time, events := [measured endpoint result time] }
  | (.ok received, time) =>
    let result := interpret endpoint received
    { result
      after := some time
      events := [responded endpoint received.status, measured endpoint result time] }

/-- Make a call: send its request, and go where the replies send. -/
def make (r : Remote) (call : Call) : Http.Asking Answer := do
  match r.request call with
  | .error e => return conclude call.endpoint (.error e, 0)
  | .ok request =>
    return conclude call.endpoint
      (← Http.follow r.peer request.url Http.maxHops r.timeout request)

/-- The requests that have been sent when some calls have been made.  A call that was given up
counts as if it had gone on. -/
def sent (r : Remote) (calls : List Call) : List Http.Outgoing :=
  calls.foldl (fun sent call => ((r.make call).run sent).2) []

/-- The answer to a call, given the calls before. -/
def answer (r : Remote) (before : List Call) (call : Call) : Answer :=
  ((r.make call).run (r.sent before)).1

/-- The other server as a backend. -/
def backend (r : Remote) : Backend where
  answer := r.answer

end Remote
end Registration
end Gatehouse
