import Gatehouse.Gateway.Forwarding
import Gatehouse.Gateway.Health
import Gatehouse.Json.Printer
import Gatehouse.Net.SocketAddress
import Gatehouse.Routing.Chain

/-!
# Answering requests

What the gateway sends back for a request.  Paths below `/_portico/` are its own; every other
request goes through the chain, and what the chain decides is carried out: a redirect is answered at
once and nothing is forwarded, and all else goes to the page server, whose reply is handed on.  If
the page server was asked under another path, a header field of the reply says which, and the header
fields that the stages want to see replace those of the reply.

Every response carries the identifier of its request, and everything that is logged on the way
stands in a span that names the request.
-/

set_option autoImplicit false

namespace Gatehouse

/-- A request as it arrives. -/
structure Http.Incoming where
  method : String
  uri : Http.Uri
  headers : Headers := {}
  /-- The body, or why it cannot be read. -/
  body : Except String (List UInt8) := .ok []
  peer : Option Net.SocketAddress := none

namespace Gateway

/-- The start of the paths that the gateway answers itself. -/
def ownPrefix : String := "/_portico/"

/-- The name of the header field that says under which path a page was asked for. -/
def servedPathHeader : String := "x-portico-rewrite"

/-- The name of the program. -/
def programName : String := "portico-gateway"

/-- The part of the program that log lines of the server name. -/
def serverTarget : String := "portico_gateway::server"

/-- A gateway for one application. -/
structure Service where
  chain : Routing.Chain
  forwarder : Forwarder

/-- What a gateway remembers from one request to the next. -/
structure State where
  health : Health := {}
  trace : Trace := {}

/-- A computation on what a gateway remembers. -/
abbrev Serving (α : Type) := StateM State α

namespace Serving

/-- A computation that only adds to the trace. -/
def traced {α : Type} (t : Traced α) : Serving α := fun s =>
  let (a, trace) := t.run s.trace
  (a, { s with trace })

/-- Write a log line. -/
def log (level : LogLevel) (message : String) (fields : List (String × Json)) : Serving Unit :=
  traced (Traced.log level serverTarget message fields)

/-- A computation whose log lines stand inside a span. -/
def within {α : Type} (span : LogSpan) (t : Serving α) : Serving α := fun s =>
  let ((a, health), trace) := Traced.within span (fun trace =>
    let (a, s) := t.run { s with trace }
    ((a, s.health), s.trace)) s.trace
  (a, { health, trace })

end Serving

/-! ## Responses of the gateway itself -/

/-- A response with an object as its body. -/
def jsonReply (status : Http.Status) (body : Json) : Http.Reply where
  status
  headers := Headers.empty.insert "content-type" (Text.bytes "application/json")
  body := Text.bytes body.render

/-- A response that tells of a fault. -/
def faultReply (status : Http.Status) (envelope : Envelope) (id : RequestId) : Http.Reply :=
  jsonReply status { envelope with requestId := some id.render }.toJson

/-- The response to a fault of the gateway. -/
def errorReply (e : GatewayError) (id : RequestId) : Http.Reply :=
  faultReply ((Http.Status.ofCode? e.statusCode).getD .badGateway) (Envelope.ofError e) id

/-- A response that sends the caller elsewhere; not every text can be a location. -/
def redirectReply (status : Http.Status) (location : String) (id : RequestId) : Http.Reply :=
  match Headers.value? (Text.bytes location) with
  | some value => { status, headers := Headers.empty.insert "location" value }
  | none =>
    faultReply .internalServerError
      { error := "internal", message := "redirect target is not a valid header value" } id

/-- A response with header fields in place of those of the same names. -/
def merge (reply : Http.Reply) (headers : Headers) : Http.Reply :=
  { reply with headers := headers.fields.foldl (fun h f => h.insert f.name f.value) reply.headers }

/-- A response with a header field, unless it has one of that name. -/
def addIfMissing (reply : Http.Reply) (name : String) (value : List UInt8) : Http.Reply :=
  if reply.headers.contains name then reply
  else { reply with headers := reply.headers.insert name value }

namespace Service

/-! ## Paths of the gateway itself -/

/-- What is known about a running gateway: how many seconds it has been up, and what is published
about its measurements, if they are collected. -/
structure Vitals where
  uptimeSeconds : Nat := 0
  metrics : Option String := none

/-- The response of one of the gateway's own endpoints. -/
def own (s : Service) (vitals : Vitals) (endpoint : String) (id : RequestId) :
    Serving Http.Reply := do
  match endpoint with
  | "health" => return jsonReply .ok (livenessJson s.chain.label vitals.uptimeSeconds)
  | "ready" =>
    let (checks, health) ← Serving.traced
      ((← get).health.readiness s.forwarder.pagesUrl s.forwarder.peer)
    modify fun state => { state with health }
    return jsonReply (if isReady checks then .ok else .serviceUnavailable) (readinessJson checks)
  | "metrics" =>
    match vitals.metrics with
    | some text =>
      return { status := .ok
               headers := Headers.empty.insert "content-type"
                 (Text.bytes "text/plain; version=0.0.4")
               body := Text.bytes text }
    | none =>
      return faultReply .serviceUnavailable
        { error := "metrics", message := "metrics recorder not installed" } id
  | "version" =>
    return jsonReply .ok (Json.obj [("name", Json.str programName), ("version", Json.str version),
      ("app", Json.str s.chain.label), ("stages", .array (s.chain.stageNames.map Json.str))])
  | other =>
    return faultReply .notFound
      { error := "not_found", message := "unknown internal endpoint: " ++ ownPrefix ++ other } id

/-! ## Paths of the application -/

/-- The request to the page server for a request that is let through under a path. -/
def pageRequest (request : Http.Incoming) (target : String) (body : List UInt8) (id : RequestId) :
    PageRequest :=
  ((((PageRequest.mk request.method target none {} []).withQuery request.uri.query).withHeaders
    request.headers).withBody body).withHeader requestIdHeader (Text.bytes id.render)

/-- Hand a request on under a path, and hand back what the page server replies.  Whether the path is
one that the chain has chosen is given, and the header fields that the stages want to see. -/
def forward (s : Service) (request : Http.Incoming) (id : RequestId) (target : String)
    (isChosen : Bool) (extra : Headers) : Serving Http.Reply := do
  match request.body with
  | .error cause =>
    Serving.log .warn ("Failed to read request body: " ++ cause) []
    return errorReply (.badRequest "failed to read request body") id
  | .ok body =>
    let (result, time) ← Serving.traced (s.forwarder.forward (pageRequest request target body id))
    let fields :=
      [("target", Json.str target), ("duration_ms", Json.str (toString time))]
    match result with
    | .ok reply =>
      Serving.log .info "request completed" (("status", Json.nat reply.status.code) :: fields)
      let reply := match Headers.value? (Text.bytes target) with
        | some value =>
          if isChosen then { reply with headers := reply.headers.insert servedPathHeader value }
          else reply
        | none => reply
      return merge reply extra
    | .error e =>
      Serving.log .error "proxy error" (("error", Json.str e.message) :: fields)
      return errorReply e id

/-- What the chain responds to a request. -/
def respond (s : Service) (seen : Request) (id : RequestId) : Serving Response :=
  Serving.traced fun trace =>
    let (response, run) := (s.chain.process seen).run { context := { requestId := id }, trace }
    (response, run.trace)

/-- Carry out what the chain has responded to a request. -/
def carryOut (s : Service) (request : Http.Incoming) (seen : Request) (id : RequestId)
    (response : Response) : Serving Http.Reply := do
  match response.decision with
  | .redirect location status =>
    Serving.log .info "redirect"
      [("status", Json.nat status.code), ("location", Json.str location)]
    return merge (redirectReply status location id) response.headers
  | .serve path => s.forward request id path true response.headers
  | .passThrough => s.forward request id seen.path false response.headers

/-- The response to a request for the application. -/
def route (s : Service) (request : Http.Incoming) (id : RequestId) : Serving Http.Reply := do
  let seen := Request.ofUri request.uri request.headers
  s.carryOut request seen id (← s.respond seen id)

/-! ## Any path -/

/-- The identifier that a request brings along, if it is one. -/
def idOf? (request : Http.Incoming) : Option RequestId := do
  RequestId.parse? (← Headers.visible? (← request.headers.get? requestIdHeader))

/-- The span of a request. -/
def span (request : Http.Incoming) (id : RequestId) : LogSpan where
  level := .info
  target := serverTarget
  name := "request"
  fields := [("request_id", Json.str id.render), ("method", Json.str request.method),
    ("path", Json.str request.uri.path),
    ("peer", Json.str (Text.optional (request.peer.map Net.SocketAddress.render)))]

/-- The response to a request.  A fresh identifier is given for a request that brings none along. -/
def handle (s : Service) (vitals : Vitals) (fresh : RequestId) (request : Http.Incoming) :
    Serving Http.Reply := do
  let id := (idOf? request).getD fresh
  Serving.within (span request id) do
    let reply ← match Path.afterStart? ownPrefix.toList request.uri.path.toList with
      | some endpoint => s.own vitals (String.ofList endpoint) id
      | none => s.route request id
    return addIfMissing reply requestIdHeader (Text.bytes id.render)

end Service
end Gateway
end Gatehouse
