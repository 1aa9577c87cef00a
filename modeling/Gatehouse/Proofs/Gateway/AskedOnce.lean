import Gatehouse.Proofs.Gateway.Replies
import Gatehouse.Proofs.Routing.Footprint

/-!
# The page server is asked once

Between the arrival of a request and its reply the page server is asked at most one thing.
`Service.asked?` is that: for a request to the gateway itself nothing, unless it wants to know
whether the page server is there; for any other request, what the chain has decided to ask, if the
body can be read and the URL can be asked for.

Nothing is asked again.  If no page comes back the caller is told so, and whatever page comes back
goes to the caller as it is, also one that only says that the page is elsewhere.

* `Service.forwarded_handle` — a request adds `asked?` to what the page server was sent.
* `Service.asksOnce` — what is asked, and what the caller is told, for each way a request can go.
-/

set_option autoImplicit false

namespace Gatehouse
namespace Gateway

/-! ## Looking whether the page server is there -/

namespace Health

/-- The request for the front page, if it can be sent. -/
def probe? (pagesUrl : String) : Option Http.Outgoing :=
  ((Http.Outgoing.to "GET" pagesUrl).bind Http.Outgoing.ready).toOption

theorem forwarded_askPages (pagesUrl : String) (peer : Http.Peer) (t : Trace) :
    ((askPages pagesUrl peer).run t).2.forwarded = t.forwarded ++ (probe? pagesUrl).toList := by
  unfold askPages probe?
  cases (Http.Outgoing.to "GET" pagesUrl).bind Http.Outgoing.ready with
  | error e => exact (List.append_nil _).symm
  | ok out =>
    simp only [StateT.run_bind, StateT.run_get, Traced.note, StateT.run_modify, pure_bind]
    exact t.forwarded_append [.forwarded out]

/-- Looking whether the page server is there is asking for nothing but its front page. -/
theorem of_probe {pagesUrl : String} {out : Http.Outgoing} (h : probe? pagesUrl = some out) :
    ∃ url, Url.parse pagesUrl = .ok url ∧
      out = { method := "GET", url := url.asked, headers := Http.loginFields url } := by
  obtain ⟨bare, hbare, hready⟩ := exists_of_bind_eq_ok (ok_of_toOption h)
  obtain ⟨url, hparsed, -, rfl⟩ := Http.Outgoing.to_eq_ok_iff.1 hbare
  obtain ⟨-, rfl⟩ := Http.Outgoing.ready_eq_ok_iff.1 hready
  exact ⟨url, hparsed, rfl⟩

end Health

namespace Service

variable {s : Service} {vitals : Vitals} {fresh : RequestId} {request : Http.Incoming}
  {state : State} {endpoint target : String} {out : Http.Outgoing}

/-! ## What is asked -/

/-- The endpoint of the gateway itself that a request is for, if it is for one. -/
def endpoint? (request : Http.Incoming) : Option String :=
  (Path.afterStart? ownPrefix.toList request.uri.path.toList).map String.ofList

theorem not_own_of_endpoint (h : endpoint? request = none) :
    Path.afterStart? ownPrefix.toList request.uri.path.toList = none :=
  Option.map_eq_none_iff.1 h

/-- What a request to the gateway itself has the page server asked. -/
def askedBy? (s : Service) (endpoint : String) : Option Http.Outgoing :=
  if endpoint = "ready" then Health.probe? s.forwarder.pagesUrl else none

theorem forwarded_own (s : Service) (vitals : Vitals) (endpoint : String) (id : RequestId)
    (state : State) :
    ((s.own vitals endpoint id).run state).2.trace.forwarded =
      state.trace.forwarded ++ (s.askedBy? endpoint).toList := by
  unfold own askedBy?
  split
  · exact (List.append_nil _).symm
  · exact Health.forwarded_askPages s.forwarder.pagesUrl s.forwarder.peer state.trace
  · cases vitals.metrics with
    | some text | none => exact (List.append_nil _).symm
  · exact (List.append_nil _).symm
  · next hready _ _ =>
    rw [if_neg hready]
    exact (List.append_nil _).symm

/-- What a request has the page server asked, if anything. -/
def asked? (s : Service) (fresh : RequestId) (request : Http.Incoming) (state : State) :
    Option Http.Outgoing :=
  match endpoint? request with
  | some endpoint => s.askedBy? endpoint
  | none => (s.target? fresh request state).bind (s.outgoing? request (idFor fresh request))

theorem asked_of_own (h : endpoint? request = some endpoint) :
    s.asked? fresh request state = s.askedBy? endpoint := by
  rw [asked?, h]

theorem asked_of_app (h : endpoint? request = none) :
    s.asked? fresh request state =
      (s.target? fresh request state).bind (s.outgoing? request (idFor fresh request)) := by
  rw [asked?, h]

/-- What the page server was sent by the time it is asked on behalf of a request.  The stages come
first, so it includes what they may have sent. -/
def sentBefore (s : Service) (fresh : RequestId) (request : Http.Incoming) (state : State) :
    List Http.Outgoing :=
  match endpoint? request with
  | some _ => state.trace.forwarded
  | none => (s.routed fresh request state).2.trace.forwarded

/-- **A request adds to what the page server was sent what it has the page server asked,** and no
more. -/
theorem forwarded_handle (s : Service) (vitals : Vitals) (fresh : RequestId)
    (request : Http.Incoming) (state : State) :
    ((s.handle vitals fresh request).run state).2.trace.forwarded =
      s.sentBefore fresh request state ++ (s.asked? fresh request state).toList := by
  unfold handle sentBefore asked? endpoint?
  rw [Serving.forwarded_within]
  cases Path.afterStart? ownPrefix.toList request.uri.path.toList with
  | some rest =>
    exact s.forwarded_own vitals (String.ofList rest) ((idOf? request).getD fresh) state
  | none =>
    have hcarried := s.forwarded_carryOut request (Request.ofUri request.uri request.headers)
      (idFor fresh request) (s.routed fresh request state).1
      { state with trace := (s.routed fresh request state).2.trace }
    exact hcarried

/-- If the stages send nothing, what a request has the page server asked is all that it is sent. -/
theorem sent_of_quiet (hquiet : s.chain.IsQuiet) :
    s.sent vitals fresh request state = (s.asked? fresh request state).toList := by
  have hbefore : s.sentBefore fresh request state = state.trace.forwarded := by
    unfold sentBefore
    split
    · rfl
    · exact Routing.Chain.forwarded_start_of_quiet hquiet _ _ _
  rw [sent, forwarded_handle, hbefore, List.drop_left]

/-! ## What the caller is told -/

theorem asked_of_unreadable (hendpoint : endpoint? request = none) {cause : String}
    (hbody : request.body = .error cause) : s.asked? fresh request state = none := by
  rw [asked_of_app hendpoint]
  refine Option.bind_eq_none_iff.2 fun target _ => ?_
  rw [outgoing?, hbody]

theorem asked_of_redirect (hendpoint : endpoint? request = none)
    (h : (s.routed fresh request state).1.decision.isRedirect = true) :
    s.asked? fresh request state = none := by
  rw [asked_of_app hendpoint, target?]
  cases hdecision : (s.routed fresh request state).1.decision with
  | redirect location status => rfl
  | passThrough | serve =>
    rw [hdecision] at h
    cases h

/-- The page that comes back goes to the caller with its status and its body, and the names that
neither the connection nor the gateway uses keep their values. -/
structure HandsOn (reply page : Http.Reply) (attached : List String) : Prop where
  status : reply.status = page.status
  body : reply.body = page.body
  fields : ∀ name, name ≠ requestIdHeader → name ≠ servedPathHeader → name ∉ attached →
    reply.headers.getAll name =
      if isConnectionField name then [] else page.headers.getAll name

theorem handsOn_of_page (hendpoint : endpoint? request = none)
    (htarget : s.target? fresh request state = some target) {page : Http.Reply}
    (hpage : s.pageFor? fresh request state target = some page) :
    HandsOn (s.reply vitals fresh request state) page
      (s.routed fresh request state).1.headers.names := by
  rw [reply_of_page vitals (not_own_of_endpoint hendpoint) htarget hpage]
  constructor
  · rw [status_addIfMissing, status_handedOn]
  · rw [body_addIfMissing, body_handedOn]
  · intro name hid hserved hattached
    rw [getAll_addIfMissing_of_ne _ (Ne.symm hid),
      getAll_handedOn page target _ hserved hattached]

/-- What a request has the page server asked, and what its caller is told. -/
structure AsksOnce (s : Service) (vitals : Vitals) (fresh : RequestId) (request : Http.Incoming)
    (state : State) : Prop where
  /-- Handling a request adds one request to the page server at most. -/
  forwarded : ((s.handle vitals fresh request).run state).2.trace.forwarded =
    s.sentBefore fresh request state ++ (s.asked? fresh request state).toList
  /-- If the stages send nothing there is nothing else. -/
  sent : s.chain.IsQuiet →
    s.sent vitals fresh request state = (s.asked? fresh request state).toList
  /-- Of the endpoints of the gateway itself only one has the page server asked, and what is asked
  for is the front page. -/
  own : ∀ endpoint, endpoint? request = some endpoint →
    ∀ out ∈ s.asked? fresh request state, endpoint = "ready" ∧
      ∃ url, Url.parse s.forwarder.pagesUrl = .ok url ∧
        out = { method := "GET", url := url.asked, headers := Http.loginFields url }
  /-- A redirect has nothing asked. -/
  redirect : endpoint? request = none →
    (s.routed fresh request state).1.decision.isRedirect = true →
      s.asked? fresh request state = none
  /-- A body that cannot be read has nothing asked, and unless the caller is sent elsewhere it is
  told so. -/
  unreadable : endpoint? request = none → ∀ cause, request.body = .error cause →
    s.asked? fresh request state = none ∧
      ((s.routed fresh request state).1.decision.isRedirect = false →
        TellsOf (s.reply vitals fresh request state) .badRequest "bad_request"
          "Bad request: failed to read request body" (idFor fresh request))
  /-- If no whole page comes back in time, the caller is told so. -/
  failed : endpoint? request = none → ∀ body, request.body = .ok body →
    ∀ target ∈ s.target? fresh request state, s.pageFor? fresh request state target = none →
      ∃ cause, TellsOf (s.reply vitals fresh request state) .badGateway "upstream"
        ("Upstream error: " ++ cause) (idFor fresh request)
  /-- A page that comes back is handed on, whatever its status. -/
  page : endpoint? request = none → ∀ target ∈ s.target? fresh request state,
    ∀ page ∈ s.pageFor? fresh request state target,
      HandsOn (s.reply vitals fresh request state) page
        (s.routed fresh request state).1.headers.names

theorem exists_target_of_not_redirect
    (h : (s.routed fresh request state).1.decision.isRedirect = false) :
    ∃ target, s.target? fresh request state = some target := by
  unfold target?
  cases hdecision : (s.routed fresh request state).1.decision with
  | passThrough => exact ⟨_, rfl⟩
  | serve path => exact ⟨path, rfl⟩
  | redirect location status =>
    rw [hdecision] at h
    cases h

/-- **Whatever a request is, whatever the chain decides and whatever the page server does, it is
asked at most once,** and the caller is told what came of it. -/
theorem asksOnce (s : Service) (vitals : Vitals) (fresh : RequestId) (request : Http.Incoming)
    (state : State) : s.AsksOnce vitals fresh request state where
  forwarded := s.forwarded_handle vitals fresh request state
  sent := sent_of_quiet
  own := by
    intro endpoint hendpoint out hout
    rw [asked_of_own hendpoint, askedBy?] at hout
    split at hout
    · next hready => exact ⟨hready, Health.of_probe hout⟩
    · cases hout
  redirect := asked_of_redirect
  unreadable := by
    intro hendpoint cause hbody
    refine ⟨asked_of_unreadable hendpoint hbody, fun hstays => ?_⟩
    obtain ⟨target, htarget⟩ := exists_target_of_not_redirect hstays
    exact reply_of_unreadable vitals (not_own_of_endpoint hendpoint) htarget hbody
  failed := by
    intro hendpoint body hbody target htarget hpage
    exact reply_of_no_page vitals (not_own_of_endpoint hendpoint) htarget hbody hpage
  page := by
    intro hendpoint target htarget page hpage
    exact handsOn_of_page hendpoint htarget hpage

-- a page server that says where the page is instead is not asked there
example :
    let elsewhere : Http.Reply :=
      { status := ⟨302⟩, headers := Headers.empty.insert "location" (Text.bytes "/elsewhere") }
    let s := ofConfig plainConfig { pages := ⟨fun _ _ => ⟨.whole elsewhere, some 0⟩⟩ } 0
    (s.sent {} ⟨1⟩ (bareRequest "/_next/app.js") {}).length = 1 ∧
      (s.reply {} ⟨1⟩ (bareRequest "/_next/app.js") {}).status = ⟨302⟩ ∧
      (s.reply {} ⟨1⟩ (bareRequest "/_next/app.js") {}).headers.getAll "location" =
        [Text.bytes "/elsewhere"] := by
  decide +kernel

end Service
end Gateway
end Gatehouse
