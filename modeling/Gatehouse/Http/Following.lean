import Gatehouse.Http.Exchange
import Gatehouse.Url.Relative

/-!
# Following replies that send elsewhere

A reply may say that what was asked for is elsewhere.  A client that follows such replies asks
there, and again if it is sent on from there, up to a number of times.  All of this has to come to
its end within the time of one request.

What is asked elsewhere is the same request, but for some header fields.  One says at which URL the
caller was sent on.  Others tell who is asking, and they are for the server that was asked first: as
soon as a request goes to another server they are left out, and they stay out.  A name and a
password in the URL of the reply are not sent along.

Only requests without a body are followed here, and only those for `GET`, which every such reply
leaves as they are.

`Asking` keeps a list of what the servers were sent.  A peer cannot be asked without being in it.

* `follow` — what comes of a request in the end, and the requests on the way.
-/

set_option autoImplicit false

namespace Gatehouse
namespace Http

/-! ## Asking -/

/-- A computation that asks servers and adds to the list of what they were sent. -/
abbrev Asking (α : Type) := StateM (List Outgoing) α

/-- Ask a server: what comes back within a number of milliseconds, and how many of them it takes. -/
def Peer.ask (peer : Peer) (timeout : Nat) (request : Outgoing) :
    Asking (Except ClientError Received × Nat) := do
  let before ← get
  set (before ++ [request])
  return exchange peer timeout before request

/-! ## Where a reply sends -/

/-- Whether a reply with this status may send elsewhere. -/
def Status.sendsElsewhere (s : Status) : Bool :=
  [301, 302, 303, 307, 308].contains s.code

/-- The URL that a reply sends to, seen from the URL that was asked. -/
def elsewhere? (url : Url) (received : Received) : Option Url := do
  guard received.status.sendsElsewhere
  let location ← received.headers.get? "location"
  let text ← Text.Utf8.decode? location
  let next ← (url.join text).toOption
  guard (Uri.parse next.render).toOption.isSome
  return next

/-- The URL that a client is sent to by what has come back for a URL. -/
def sentTo? (url : Url) : Except ClientError Received → Option Url
  | .error _ => none
  | .ok received => elsewhere? url received

/-! ## What is asked there -/

/-- The names of the header fields that tell who is asking. -/
def personalFields : List String :=
  ["authorization", "cookie", "cookie2", "proxy-authorization", "www-authenticate"]

/-- What the server of a URL is told about the URL from where it is asked. -/
def referer? (url next : Url) : Option (List UInt8) :=
  if url.scheme = "https" ∧ next.scheme = "http" then none
  else Headers.value? (Text.bytes { url.withoutCredentials with fragment := none }.render)

/-- The request that follows one whose reply sends to a URL. -/
def Outgoing.onward (r : Outgoing) (next : Url) : Outgoing :=
  let kept := if r.url.server = next.server then r.headers else r.headers.without personalFields
  let headers := match referer? r.url next with
    | some value => kept.insert "referer" value
    | none => kept
  { r with url := next, headers }

/-- How many times a request is sent on. -/
def maxHops : Nat := 10

/-- A fault on the way as it is seen from the start: nothing came back for the URL that was
asked. -/
def ClientError.seenFrom (start : Url) : ClientError → ClientError
  | .unsent _ => .unsent start
  | e => e

/-- Send a request, and go where the replies send, a number of times at most: what comes back in the
end, and how many milliseconds it takes. -/
def follow (peer : Peer) (start : Url) : Nat → Nat → Outgoing →
    Asking (Except ClientError Received × Nat)
  | 0, timeout, request => do
    let (result, time) ← peer.ask timeout request
    match sentTo? request.url result with
    | none => return (result.mapError (·.seenFrom start), time)
    | some _ => return (.error (.astray request.url), time)
  | hops + 1, timeout, request => do
    let (result, time) ← peer.ask timeout request
    match sentTo? request.url result with
    | none => return (result.mapError (·.seenFrom start), time)
    | some next =>
      if next.scheme = "http" ∨ next.scheme = "https" then
        let (result, more) ← follow peer start hops (timeout - time) (request.onward next)
        return (result, time + more)
      else return (.error (.unbuildable (some next)), time)

end Http
end Gatehouse
