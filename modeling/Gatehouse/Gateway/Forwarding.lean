import Gatehouse.Gateway.Error
import Gatehouse.Http.Exchange
import Gatehouse.Path
import Gatehouse.Trace

/-!
# Forwarding to the page server

A request that is let through goes to the page server with its method, its query and its body, under
the path that was decided.  Its header fields go with it, save for two kinds: `host`, which names
the gateway and not the page server, and the fields that belong to a single connection.  The latter
are taken out of replies too.

* `withoutConnectionFields_idem` — taking them out twice is taking them out once.
-/

set_option autoImplicit false

namespace Gatehouse
namespace Gateway

/-! ## Fields of a connection -/

/-- The names of the header fields that belong to a single connection. -/
def connectionFields : List String :=
  ["connection", "keep-alive", "proxy-authenticate", "proxy-authorization", "te", "trailers",
    "transfer-encoding", "upgrade"]

/-- Whether a header field belongs to a single connection. -/
def isConnectionField (name : String) : Bool :=
  connectionFields.contains (Text.lowerAscii name)

/-- Header fields without those that belong to a single connection. -/
def withoutConnectionFields (h : Headers) : Headers :=
  ⟨h.fields.filter fun f => !isConnectionField f.name⟩

@[simp] theorem withoutConnectionFields_idem (h : Headers) :
    withoutConnectionFields (withoutConnectionFields h) = withoutConnectionFields h := by
  simp [withoutConnectionFields]

/-! ## Requests -/

/-- A request to the page server. -/
structure PageRequest where
  method : String
  path : String
  query : Option String := none
  headers : Headers := {}
  body : List UInt8 := []
deriving Repr, DecidableEq

namespace PageRequest

/-- With a query, unless it is empty. -/
def withQuery (r : PageRequest) (query : Option String) : PageRequest :=
  { r with query := query.filter fun q => !q.isEmpty }

/-- With header fields; the host that the caller has asked is none of the page server's business. -/
def withHeaders (r : PageRequest) (headers : Headers) : PageRequest :=
  { r with headers := headers.remove "host" }

/-- With one more header field, in place of all of that name. -/
def withHeader (r : PageRequest) (name : String) (value : List UInt8) : PageRequest :=
  { r with headers := r.headers.insert name value }

/-- With a body. -/
def withBody (r : PageRequest) (body : List UInt8) : PageRequest :=
  { r with body }

/-- The URL of the request below that of the page server. -/
def url (r : PageRequest) (base : String) : String :=
  base ++ r.path ++ Url.marked "?" r.query

/-- The request as it is sent to a URL.  What the URL says of the user is sent along, unless the
request says something under the same name. -/
def outgoing (r : PageRequest) (url : String) : Except Http.ClientError Http.Outgoing := do
  let bare ← Http.Outgoing.to r.method url
  Http.Outgoing.ready
    { bare with
      headers := bare.headers.replacedBy (withoutConnectionFields r.headers)
      body := r.body }

end PageRequest

/-! ## Sending -/

/-- Where the page server is. -/
structure Forwarder where
  pagesUrl : String
  /-- The greatest number of milliseconds that it may take. -/
  timeout : Nat
  peer : Http.Peer

namespace Forwarder

/-- The page server at a URL; slashes at its end do not count. -/
def atUrl (pagesUrl : String) (timeout : Nat) (peer : Http.Peer) : Forwarder where
  pagesUrl := String.ofList (Path.trimEnd pagesUrl.toList)
  timeout
  peer

/-- The fault when no reply comes back. -/
def failure (url : String) (e : Http.ClientError) : GatewayError :=
  .pages ("request to " ++ url ++ " failed: " ++ e.message) none

/-- The reply that goes on to the caller. -/
def conclude (r : Http.Received) : Except GatewayError Http.Reply :=
  match r.body with
  | .ok body => .ok { status := r.status, headers := withoutConnectionFields r.headers, body }
  | .error e => .error (.pages ("failed to read upstream body: " ++ e.message) none)

/-- Send a request to the page server: the reply, and how many milliseconds it takes. -/
def forward (f : Forwarder) (r : PageRequest) : Traced (Except GatewayError Http.Reply × Nat) := do
  let text := r.url f.pagesUrl
  match r.outgoing text with
  | .error e => return (.error (failure text e), 0)
  | .ok request =>
    let before := (← get).forwarded
    Traced.note [.forwarded request]
    match Http.exchange f.peer f.timeout before request with
    | (.error e, time) => return (.error (failure text e), time)
    | (.ok received, time) => return (conclude received, time)

end Forwarder
end Gateway
end Gatehouse
