import Gatehouse.Proofs.Gateway.Wire
import Gatehouse.Proofs.Http.Fields

/-!
# What callers get back

A caller gets back the reply of the page server, or the fault that there is none, or what the
gateway says itself.  This file says which, without the log lines and the clock: `Forwarder.page?`
is the whole reply to a request, if one comes back in time, and `handedOn` is what becomes of it on
the way back.

* `getAll_withoutConnectionFields`, `getAll_merge_of_notMem` — what the filters do to the values of
  a name.
* `Forwarder.fst_run_forward` — sending a request gives the page, or a fault of the page server.
* `Service.reply_of_page`, `Service.reply_of_no_page`, `Service.reply_of_unreadable`,
  `Service.reply_of_redirect` — the reply for each way a request can go.
-/

set_option autoImplicit false

namespace Gatehouse

/-! ## Header fields on their way -/

namespace Gateway

open Headers

/-- **Taking out the fields of a connection leaves every other name its values,** all of them and in
order. -/
theorem getAll_withoutConnectionFields (h : Headers) (name : String) :
    (withoutConnectionFields h).getAll name =
      if isConnectionField name then [] else h.getAll name := by
  have hfilter := getAll_filter h (fun name => !isConnectionField name) name
  rw [withoutConnectionFields, hfilter]
  cases isConnectionField name with
  | true | false => rfl

theorem getAll_merge_of_notMem (reply : Http.Reply) {extra : Headers} {name : String}
    (h : name ∉ extra.names) :
    (merge reply extra).headers.getAll name = reply.headers.getAll name :=
  getAll_foldl_insert_of_notMem h reply.headers

theorem getAll_addIfMissing_of_ne (reply : Http.Reply) {name other : String} (h : name ≠ other)
    (value : List UInt8) :
    (addIfMissing reply name value).headers.getAll other = reply.headers.getAll other := by
  unfold addIfMissing
  split
  · rfl
  · exact getAll_insert_of_ne reply.headers h value

theorem getAll_addIfMissing_of_missing (reply : Http.Reply) {name : String}
    (h : reply.headers.getAll name = []) (value : List UInt8) :
    (addIfMissing reply name value).headers.getAll name = [value] := by
  have hmissing : reply.headers.contains name = false :=
    Bool.eq_false_iff.2 fun hcontains => (contains_iff _ name).1 hcontains h
  rw [addIfMissing, hmissing, if_neg Bool.false_ne_true]
  exact getAll_insert_self reply.headers name value

@[simp] theorem status_addIfMissing (reply : Http.Reply) (name : String) (value : List UInt8) :
    (addIfMissing reply name value).status = reply.status := by
  unfold addIfMissing
  split <;> rfl

@[simp] theorem body_addIfMissing (reply : Http.Reply) (name : String) (value : List UInt8) :
    (addIfMissing reply name value).body = reply.body := by
  unfold addIfMissing
  split <;> rfl

end Gateway

/-! ## Replies of the page server -/

namespace Http

variable {peer : Peer} {timeout : Nat} {before : List Outgoing} {request : Outgoing}

/-- The whole reply to a request, if one comes back in time. -/
def wholeReply? (peer : Peer) (timeout : Nat) (before : List Outgoing) (request : Outgoing) :
    Option Reply :=
  match peer.answer before request with
  | ⟨.whole reply, some t⟩ => if t ≤ timeout then some reply else none
  | _ => none

/-- What is seen of an exchange that brings a whole reply. -/
theorem exchange_of_wholeReply {reply : Reply}
    (h : wholeReply? peer timeout before request = some reply) :
    ∃ time, exchange peer timeout before request =
      (.ok ⟨reply.status, reply.headers, .ok reply.body⟩, time) := by
  unfold wholeReply? at h
  split at h
  · next whole t hanswer =>
    split at h
    · next htime =>
      cases h
      refine ⟨t, ?_⟩
      simp only [exchange, hanswer, if_pos htime, Received.ofOutcome]
    · cases h
  · cases h

/-- What is seen of an exchange that brings none: nothing, or a body that breaks off. -/
theorem exchange_of_no_reply (h : wholeReply? peer timeout before request = none) :
    (∃ error time, exchange peer timeout before request = (.error error, time)) ∨
      ∃ received error time, exchange peer timeout before request = (.ok received, time) ∧
        received.body = .error error := by
  unfold wholeReply? at h
  unfold exchange
  rcases hanswer : peer.answer before request with ⟨outcome, after⟩
  rw [hanswer] at h
  cases after with
  | none => exact .inl ⟨_, _, rfl⟩
  | some t =>
    by_cases htime : t ≤ timeout
    · simp only [if_pos htime]
      cases outcome with
      | whole reply =>
        simp only [if_pos htime] at h
        cases h
      | broken reply => exact .inr ⟨_, _, _, rfl, rfl⟩
      | nothing => exact .inl ⟨_, _, rfl⟩
    · simp only [if_neg htime]
      exact .inl ⟨_, _, rfl⟩

end Http

namespace Gateway

namespace Forwarder

variable {f : Forwarder} {r : PageRequest} {trace : Trace}

/-- The whole reply to a request that the page server is sent, if there is one. -/
def page? (f : Forwarder) (before : List Http.Outgoing) (r : PageRequest) : Option Http.Reply :=
  ((r.outgoing (r.url f.pagesUrl)).toOption).bind (Http.wholeReply? f.peer f.timeout before)

/-- The reply without the fields that belong to the connection to the page server. -/
def received (page : Http.Reply) : Http.Reply :=
  { page with headers := withoutConnectionFields page.headers }

theorem run_forward_of_ok {out : Http.Outgoing} (hout : r.outgoing (r.url f.pagesUrl) = .ok out) :
    ((f.forward r).run trace).1.1 =
      match (Http.exchange f.peer f.timeout trace.forwarded out).1 with
      | .error e => .error (failure (r.url f.pagesUrl) e)
      | .ok received => conclude received := by
  unfold forward
  simp only [hout, StateT.run_bind, StateT.run_get, Traced.note, StateT.run_modify, pure_bind]
  rcases Http.exchange f.peer f.timeout trace.forwarded out with ⟨error | received, time⟩
  · rfl
  · rfl

/-- Sending a request gives the page that comes back. -/
theorem result_of_page {page : Http.Reply} (h : f.page? trace.forwarded r = some page) :
    ((f.forward r).run trace).1.1 = .ok (received page) := by
  obtain ⟨out, hout, hpage⟩ := Option.bind_eq_some_iff.1 h
  obtain ⟨time, hexchange⟩ := Http.exchange_of_wholeReply hpage
  rw [run_forward_of_ok (ok_of_toOption hout), hexchange]
  rfl

/-- **Without a page there is a fault of the page server,** and it names no status. -/
theorem result_of_no_page (h : f.page? trace.forwarded r = none) :
    ∃ cause, ((f.forward r).run trace).1.1 = .error (.pages cause none) := by
  unfold page? at h
  cases hout : r.outgoing (r.url f.pagesUrl) with
  | error e =>
    refine ⟨"request to " ++ r.url f.pagesUrl ++ " failed: " ++ e.message, ?_⟩
    unfold forward
    simp only [hout]
    rfl
  | ok out =>
    rw [hout] at h
    rw [run_forward_of_ok hout]
    rcases Http.exchange_of_no_reply h with
      ⟨error, time, hexchange⟩ | ⟨received, error, time, hexchange, hbody⟩
    · rw [hexchange]
      exact ⟨_, rfl⟩
    · rw [hexchange]
      simp only [conclude, hbody]
      exact ⟨_, rfl⟩

end Forwarder

/-- What becomes of a page on the way back: the path under which it was asked for is named if the
chain has chosen it, and the header fields of the stages come in. -/
def handedOn (page : Http.Reply) (target : String) (isChosen : Bool) (extra : Headers) :
    Http.Reply :=
  let reply := Forwarder.received page
  merge
    (match Headers.value? (Text.bytes target) with
      | some value =>
        if isChosen then { reply with headers := reply.headers.insert servedPathHeader value }
        else reply
      | none => reply) extra

/-- A page keeps its status and its body. -/
theorem exists_handedOn_eq (page : Http.Reply) (target : String) (isChosen : Bool)
    (extra : Headers) :
    ∃ headers, handedOn page target isChosen extra = { page with headers } := by
  unfold handedOn merge
  cases Headers.value? (Text.bytes target) with
  | none => exact ⟨_, rfl⟩
  | some value => cases isChosen with
    | true | false => exact ⟨_, rfl⟩

theorem status_handedOn (page : Http.Reply) (target : String) (isChosen : Bool) (extra : Headers) :
    (handedOn page target isChosen extra).status = page.status := by
  obtain ⟨headers, h⟩ := exists_handedOn_eq page target isChosen extra
  rw [h]

theorem body_handedOn (page : Http.Reply) (target : String) (isChosen : Bool) (extra : Headers) :
    (handedOn page target isChosen extra).body = page.body := by
  obtain ⟨headers, h⟩ := exists_handedOn_eq page target isChosen extra
  rw [h]

/-- **A page keeps its header fields,** save those of the connection, the name of the path it was
asked for under, and those that the stages put in place. -/
theorem getAll_handedOn (page : Http.Reply) (target : String) (isChosen : Bool) {extra : Headers}
    {name : String} (hserved : name ≠ servedPathHeader) (hextra : name ∉ extra.names) :
    (handedOn page target isChosen extra).headers.getAll name =
      if isConnectionField name then [] else page.headers.getAll name := by
  rw [handedOn, getAll_merge_of_notMem _ hextra, ← getAll_withoutConnectionFields]
  cases Headers.value? (Text.bytes target) with
  | none => rfl
  | some value =>
    cases isChosen with
    | true => exact Headers.getAll_insert_of_ne _ (Ne.symm hserved) value
    | false => rfl

/-! ## Faults -/

/-- A response that tells its caller of a fault: the status, the word for the kind of the fault and
its text, and the identifier of the request, in the body as well as in the header. -/
structure TellsOf (reply : Http.Reply) (status : Http.Status) (error message : String)
    (id : RequestId) : Prop where
  status : reply.status = status
  body : reply.body =
    Text.bytes (Envelope.toJson { error, message, requestId := some id.render }).render
  contentType : reply.headers.getAll "content-type" = [Text.bytes "application/json"]
  id : reply.headers.getAll requestIdHeader = [Text.bytes id.render]

theorem tellsOf_faultReply (status : Http.Status) (envelope : Envelope) (id : RequestId) :
    TellsOf (addIfMissing (faultReply status envelope id) requestIdHeader (Text.bytes id.render))
      status envelope.error envelope.message id where
  status := status_addIfMissing _ _ _
  body := body_addIfMissing _ _ _
  contentType := by
    rw [getAll_addIfMissing_of_ne _ (by decide)]
    exact Headers.getAll_insert_self _ _ _
  id := by
    refine getAll_addIfMissing_of_missing _ ?_ _
    exact Headers.getAll_insert_of_ne Headers.empty (by decide) _

/-- The response to a fault of the gateway tells of it. -/
theorem tellsOf_errorReply (e : GatewayError) (id : RequestId) :
    TellsOf (addIfMissing (errorReply e id) requestIdHeader (Text.bytes id.render))
      ((Http.Status.ofCode? e.statusCode).getD .badGateway) e.category e.message id :=
  tellsOf_faultReply _ (Envelope.ofError e) id

end Gateway

/-- Whether the page server is asked under a path that has been chosen. -/
def Decision.isServe : Decision → Bool
  | .serve _ => true
  | _ => false

namespace Gateway

/-! ## Replies to requests -/

namespace Service

variable {s : Service} {fresh : RequestId} {request : Http.Incoming}
  {state : State} {id : RequestId} {target : String} {isChosen : Bool} {extra : Headers}

/-- The whole reply of the page server to a request that is handed on under a path, if the request
can be sent and one comes back. -/
def page? (s : Service) (request : Http.Incoming) (id : RequestId) (target : String)
    (before : List Http.Outgoing) : Option Http.Reply :=
  (s.outgoing? request id target).bind
    (Http.wholeReply? s.forwarder.peer s.forwarder.timeout before)

theorem page?_of_body {body : List UInt8} (hbody : request.body = .ok body)
    (before : List Http.Outgoing) :
    s.page? request id target before =
      s.forwarder.page? before (pageRequest request target body id) := by
  rw [page?, outgoing?, hbody]
  rfl

/-- A request whose body cannot be read is not handed on. -/
theorem fst_run_forward_of_unreadable {cause : String} (hbody : request.body = .error cause) :
    ((s.forward request id target isChosen extra).run state).1 =
      errorReply (.badRequest "failed to read request body") id := by
  unfold forward
  rw [hbody]
  rfl

/-- What is handed back for a request is made of the result of sending it. -/
theorem fst_run_forward {body : List UInt8} (hbody : request.body = .ok body) :
    ((s.forward request id target isChosen extra).run state).1 =
      match ((s.forwarder.forward (pageRequest request target body id)).run state.trace).1.1 with
      | .ok reply =>
        merge
          (match Headers.value? (Text.bytes target) with
            | some value =>
              if isChosen then { reply with headers := reply.headers.insert servedPathHeader value }
              else reply
            | none => reply) extra
      | .error e => errorReply e id := by
  unfold forward
  rw [hbody]
  simp only [Serving.run_bind, Serving.run_traced]
  rcases (s.forwarder.forward (pageRequest request target body id)).run state.trace with
    ⟨⟨reply | error, time⟩, after⟩
  · rfl
  · rfl

/-- A page that comes back is handed on. -/
theorem fst_run_forward_of_page (isChosen : Bool) (extra : Headers) (state : State)
    {page : Http.Reply} (h : s.page? request id target state.trace.forwarded = some page) :
    ((s.forward request id target isChosen extra).run state).1 =
      handedOn page target isChosen extra := by
  cases hbody : request.body with
  | error cause =>
    rw [page?, outgoing?, hbody] at h
    cases h
  | ok body =>
    rw [page?_of_body hbody] at h
    rw [fst_run_forward hbody, Forwarder.result_of_page h]
    rfl

/-- **If the body can be read and no page comes back, the caller is told of a fault of the page
server.** -/
theorem fst_run_forward_of_no_page (isChosen : Bool) (extra : Headers) (state : State)
    {body : List UInt8} (hbody : request.body = .ok body)
    (h : s.page? request id target state.trace.forwarded = none) :
    ∃ cause, ((s.forward request id target isChosen extra).run state).1 =
      errorReply (.pages cause none) id := by
  rw [page?_of_body hbody] at h
  obtain ⟨cause, hcause⟩ := Forwarder.result_of_no_page h
  refine ⟨cause, ?_⟩
  rw [fst_run_forward hbody, hcause]

/-- What the chain responds to a request for the application. -/
def routed (s : Service) (fresh : RequestId) (request : Http.Incoming) (state : State) :
    Response × Routing.Run :=
  s.chain.start (idFor fresh request) state.trace (Request.ofUri request.uri request.headers)

/-- The path under which the page server is to be asked for a request, if it is to be asked. -/
def target? (s : Service) (fresh : RequestId) (request : Http.Incoming) (state : State) :
    Option String :=
  (s.routed fresh request state).1.decision.effectivePath
    (Request.ofUri request.uri request.headers).path

/-- The page that the page server replies to a request under a path, if there is one. -/
def pageFor? (s : Service) (fresh : RequestId) (request : Http.Incoming) (state : State)
    (target : String) : Option Http.Reply :=
  s.page? request (idFor fresh request) target
    (s.routed fresh request state).2.trace.forwarded

/-- The reply to a request. -/
def reply (s : Service) (vitals : Vitals) (fresh : RequestId) (request : Http.Incoming)
    (state : State) : Http.Reply :=
  ((s.handle vitals fresh request).run state).1

/-- Carrying out a decision under which the page server is asked is handing the request on. -/
theorem carryOut_of_target (s : Service) (request : Http.Incoming) (id : RequestId)
    {seen : Request} {response : Response}
    (h : response.decision.effectivePath seen.path = some target) :
    s.carryOut request seen id response =
      s.forward request id target response.decision.isServe response.headers := by
  unfold carryOut
  cases hdecision : response.decision with
  | redirect location status =>
    rw [hdecision] at h
    cases h
  | serve path =>
    rw [hdecision] at h
    obtain rfl := Option.some.inj h
    rfl
  | passThrough =>
    rw [hdecision] at h
    obtain rfl := Option.some.inj h
    rfl

/-- The reply to a request for the application is what carrying out the decision gives, with its
identifier. -/
theorem reply_of_app (vitals : Vitals)
    (hown : Path.afterStart? ownPrefix.toList request.uri.path.toList = none) :
    s.reply vitals fresh request state =
      addIfMissing
        ((s.carryOut request (Request.ofUri request.uri request.headers) (idFor fresh request)
          (s.routed fresh request state).1).run
            { state with trace := (s.routed fresh request state).2.trace }).1
        requestIdHeader (Text.bytes (idFor fresh request).render) := by
  unfold reply handle
  simp only [hown]
  rfl

/-- The reply to a request that is handed on is what comes of that, with its identifier. -/
theorem reply_of_target (vitals : Vitals)
    (hown : Path.afterStart? ownPrefix.toList request.uri.path.toList = none)
    (htarget : s.target? fresh request state = some target) :
    s.reply vitals fresh request state =
      addIfMissing
        ((s.forward request (idFor fresh request) target
          (s.routed fresh request state).1.decision.isServe
          (s.routed fresh request state).1.headers).run
            { state with trace := (s.routed fresh request state).2.trace }).1
        requestIdHeader (Text.bytes (idFor fresh request).render) := by
  rw [reply_of_app vitals hown, carryOut_of_target s request (idFor fresh request) htarget]

/-- **A redirect is answered as such,** with the header fields of the stages and the identifier of
the request. -/
theorem reply_of_redirect (vitals : Vitals)
    (hown : Path.afterStart? ownPrefix.toList request.uri.path.toList = none)
    {location : String} {status : Http.Status}
    (h : (s.routed fresh request state).1.decision = .redirect location status) :
    s.reply vitals fresh request state =
      addIfMissing
        (merge (redirectReply status location (idFor fresh request))
          (s.routed fresh request state).1.headers)
        requestIdHeader (Text.bytes (idFor fresh request).render) := by
  rw [reply_of_app vitals hown, carryOut, h]
  rfl

/-- A body that cannot be read is a fault of the request. -/
theorem reply_eq_of_unreadable (vitals : Vitals)
    (hown : Path.afterStart? ownPrefix.toList request.uri.path.toList = none)
    (htarget : s.target? fresh request state = some target) {cause : String}
    (hbody : request.body = .error cause) :
    s.reply vitals fresh request state =
      addIfMissing (errorReply (.badRequest "failed to read request body") (idFor fresh request))
        requestIdHeader (Text.bytes (idFor fresh request).render) := by
  rw [reply_of_target vitals hown htarget, fst_run_forward_of_unreadable hbody]

/-- **Whoever sends a body that cannot be read is told so.** -/
theorem reply_of_unreadable (vitals : Vitals)
    (hown : Path.afterStart? ownPrefix.toList request.uri.path.toList = none)
    (htarget : s.target? fresh request state = some target) {cause : String}
    (hbody : request.body = .error cause) :
    TellsOf (s.reply vitals fresh request state) .badRequest "bad_request"
      "Bad request: failed to read request body" (idFor fresh request) := by
  rw [reply_eq_of_unreadable vitals hown htarget hbody]
  exact tellsOf_errorReply (.badRequest "failed to read request body") (idFor fresh request)

/-- **A page that comes back is handed on,** with the identifier of the request. -/
theorem reply_of_page (vitals : Vitals)
    (hown : Path.afterStart? ownPrefix.toList request.uri.path.toList = none)
    (htarget : s.target? fresh request state = some target) {page : Http.Reply}
    (hpage : s.pageFor? fresh request state target = some page) :
    s.reply vitals fresh request state =
      addIfMissing
        (handedOn page target (s.routed fresh request state).1.decision.isServe
          (s.routed fresh request state).1.headers)
        requestIdHeader (Text.bytes (idFor fresh request).render) := by
  rw [reply_of_target vitals hown htarget, fst_run_forward_of_page _ _
    { state with trace := (s.routed fresh request state).2.trace } hpage]

/-- A page that does not come back is a fault of the page server. -/
theorem reply_eq_of_no_page (vitals : Vitals)
    (hown : Path.afterStart? ownPrefix.toList request.uri.path.toList = none)
    (htarget : s.target? fresh request state = some target) {body : List UInt8}
    (hbody : request.body = .ok body) (hpage : s.pageFor? fresh request state target = none) :
    ∃ cause, s.reply vitals fresh request state =
      addIfMissing (errorReply (.pages cause none) (idFor fresh request)) requestIdHeader
        (Text.bytes (idFor fresh request).render) := by
  obtain ⟨cause, hcause⟩ := fst_run_forward_of_no_page
    (s.routed fresh request state).1.decision.isServe (s.routed fresh request state).1.headers
    { state with trace := (s.routed fresh request state).2.trace } hbody hpage
  exact ⟨cause, by rw [reply_of_target vitals hown htarget, hcause]⟩

/-- **If no page comes back, the caller is told so.** -/
theorem reply_of_no_page (vitals : Vitals)
    (hown : Path.afterStart? ownPrefix.toList request.uri.path.toList = none)
    (htarget : s.target? fresh request state = some target) {body : List UInt8}
    (hbody : request.body = .ok body) (hpage : s.pageFor? fresh request state target = none) :
    ∃ cause, TellsOf (s.reply vitals fresh request state) .badGateway "upstream"
      ("Upstream error: " ++ cause) (idFor fresh request) := by
  obtain ⟨cause, hcause⟩ := reply_eq_of_no_page vitals hown htarget hbody hpage
  refine ⟨cause, ?_⟩
  rw [hcause]
  exact tellsOf_errorReply (.pages cause none) (idFor fresh request)

end Service
end Gateway
end Gatehouse
