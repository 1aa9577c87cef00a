import Gatehouse.Http.Header
import Gatehouse.Http.Status
import Gatehouse.Http.Uri
import Gatehouse.Text.Base64
import Gatehouse.Url.Login
import Gatehouse.Url.Parser

/-!
# Asking other servers

The gateway is itself a client of two servers.  What they do is not up to it, so a server is any
function that says what comes back for a request, given the requests that it had before: a whole
reply, the head of a reply whose body breaks off, or nothing at all; and how long that takes.

Before a request is sent its URL must have been read and must name a host that speaks the protocol
of the web.  A name and a password in it are taken out and sent along in a header field.  Besides, a
request has the fields that it is given; `host`, `accept` and `content-length`, which say what is
known anyway, are not among the fields here.  `exchange` is what the gateway sees of one request
within a number of milliseconds.

* `Outgoing.to_eq_ok_iff`, `Outgoing.ready_eq_ok_iff` — when there is a request for a URL, and
  which.
-/

set_option autoImplicit false

namespace Gatehouse
namespace Http

/-- A request to another server. -/
structure Outgoing where
  method : String
  url : Url
  headers : Headers := {}
  body : List UInt8 := []
deriving Repr, DecidableEq

/-- A reply, or a response of the gateway itself. -/
structure Reply where
  status : Status
  headers : Headers := {}
  body : List UInt8 := []
deriving Repr, DecidableEq

/-- What comes back for a request. -/
inductive Outcome where
  | whole (reply : Reply)
  /-- The connection ends inside the body. -/
  | broken (reply : Reply)
  /-- There is no connection, or it ends before the head of a reply. -/
  | nothing
deriving Repr, DecidableEq

/-- What comes back for a request, and after how many milliseconds; none if it never does. -/
structure Exchange where
  outcome : Outcome
  after : Option Nat := some 0
deriving Repr, DecidableEq

/-- Another server: what comes back for a request, given the requests before. -/
structure Peer where
  answer : List Outgoing → Outgoing → Exchange

/-- A server that cannot be reached. -/
def Peer.unreachable : Peer where
  answer _ _ := ⟨.nothing, some 0⟩

/-- The milliseconds in which a machine without a network finds out that it cannot look up a
name. -/
def lookupTime : Nat := 2

/-- What a machine without a network has in place of a server.  An address is known at once to lead
nowhere; a name is looked up first. -/
def Peer.offline : Peer where
  answer _ request :=
    match request.url.host with
    | some (.name _) => ⟨.nothing, some lookupTime⟩
    | _ => ⟨.nothing, some 0⟩

/-- Why there is no reply. -/
inductive ClientError where
  /-- There is nothing that could be sent; the URL is shown if that is what is wrong. -/
  | unbuildable (url : Option Url)
  /-- Nothing came back in time. -/
  | unsent (url : Url)
  /-- The reply of a URL sends elsewhere once too often. -/
  | astray (url : Url)
  /-- The body of the reply broke off. -/
  | incomplete
deriving Repr, DecidableEq

namespace ClientError

/-- The text of the fault. -/
def message : ClientError → String
  | .unbuildable none => "builder error"
  | .unbuildable (some url) => "builder error for url (" ++ url.render ++ ")"
  | .unsent url => "error sending request for url (" ++ url.render ++ ")"
  | .astray url => "error following redirect for url (" ++ url.render ++ ")"
  | .incomplete => "error decoding response body"

end ClientError

/-! ## Requests -/

/-- The header field that is sent along for a name and a password in a URL. -/
def loginFields (url : Url) : Headers :=
  match url.login? with
  | none => {}
  | some (name, password) =>
    Headers.empty.append "authorization" (Text.bytes "Basic " ++
      Text.Base64.encode (name ++ Text.bytes ":" ++ password.getD []))

/-- A request for the URL that a text spells. -/
def Outgoing.to (method text : String) : Except ClientError Outgoing :=
  match Url.parse text with
  | .error _ => .error (.unbuildable none)
  | .ok url =>
    if url.hasHost then .ok { method, url := url.asked, headers := loginFields url }
    else .error (.unbuildable (some url))

/-- There is a request for a URL just if it names a host. -/
theorem Outgoing.to_eq_ok_iff {method text : String} {out : Outgoing} :
    Outgoing.to method text = .ok out ↔ ∃ url, Url.parse text = .ok url ∧ url.hasHost = true ∧
      out = { method, url := url.asked, headers := loginFields url } := by
  rw [Outgoing.to]
  constructor
  · intro h
    split at h
    · cases h
    · next url hparsed =>
      split at h
      · next hhost =>
        cases h
        exact ⟨url, hparsed, hhost, rfl⟩
      · cases h
  · rintro ⟨url, hparsed, hhost, rfl⟩
    rw [hparsed]
    exact if_pos hhost

/-- A URL without a name and a password has nothing sent along. -/
theorem loginFields_eq_empty {url : Url} (hname : url.username = "")
    (hpassword : url.password = "") :
    loginFields url = {} := by
  rw [loginFields, Url.login?_eq_none hname hpassword]

/-- What is sent along stands under one name. -/
theorem getAll_loginFields_of_ne {name : String} (h : name ≠ "authorization") (url : Url) :
    (loginFields url).getAll name = [] := by
  rw [loginFields]
  split
  · rfl
  · exact Headers.getAll_append_of_ne _ h.symm _

/-- Whether a URL can be asked for. -/
def isAskable (url : Url) : Bool :=
  (url.scheme == "http" || url.scheme == "https") && (Uri.parse url.render).toOption.isSome

/-- A request that can be sent. -/
def Outgoing.ready (r : Outgoing) : Except ClientError Outgoing :=
  if isAskable r.url then .ok r else .error (.unbuildable (some r.url))

/-- A request is sent as it is, and only if its URL can be asked for. -/
theorem Outgoing.ready_eq_ok_iff {r out : Outgoing} :
    r.ready = .ok out ↔ isAskable r.url = true ∧ out = r := by
  rw [ready]
  split
  · next h => simp [h, eq_comm]
  · next h => simp [h]

/-! ## Replies -/

/-- The head of a reply, and its body or why there is none. -/
structure Received where
  status : Status
  headers : Headers
  body : Except ClientError (List UInt8)

/-- What the gateway sees of an outcome. -/
def Received.ofOutcome (url : Url) : Outcome → Except ClientError Received
  | .whole r => .ok ⟨r.status, r.headers, .ok r.body⟩
  | .broken r => .ok ⟨r.status, r.headers, .error .incomplete⟩
  | .nothing => .error (.unsent url)

/-- What comes back for a request within a number of milliseconds, and how many of them it takes;
the requests before are given. -/
def exchange (peer : Peer) (timeout : Nat) (before : List Outgoing) (request : Outgoing) :
    Except ClientError Received × Nat :=
  let e := peer.answer before request
  match e.after with
  | none => (.error (.unsent request.url), timeout)
  | some t =>
    if t ≤ timeout then (Received.ofOutcome request.url e.outcome, t)
    else (.error (.unsent request.url), timeout)

end Http
end Gatehouse
