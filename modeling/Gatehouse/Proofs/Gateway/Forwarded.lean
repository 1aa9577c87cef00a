import Gatehouse.Gateway.Service
import Gatehouse.Proofs.Remarks
import Gatehouse.Proofs.Routing.Outcome

/-!
# What is sent to the page server

For a request that is not for the gateway itself, the page server is sent one request at most: under
the path that the chain decides on, if it decides on one, and if the body can be read and the URL
can be asked for.  `Service.outgoing?` is that request.

* `Service.sent_eq` — what is sent for a request is what the chain has decided on.
* `Service.exists_target_of_sent` — the same for the chain of an application, read backwards.
-/

set_option autoImplicit false

namespace Gatehouse

/-! ## Spans -/

namespace Trace

/-- What is said of the log lines of a trace changes nothing about the requests in it. -/
theorem forwarded_within (span : LogSpan) (t : Trace) (count : Nat) :
    forwarded ⟨t.events.take count ++ (t.events.drop count).map (Event.within span)⟩ =
      t.forwarded := by
  have hview : ∀ events : List Event,
      forwarded ⟨events.map (Event.within span)⟩ = forwarded ⟨events⟩ := by
    intro events
    induction events with
    | nil => rfl
    | cons e events ih =>
      simp only [forwarded, List.map_cons] at ih ⊢
      cases e with
      | _ => simp only [Event.within, List.filterMap_cons, ih]
  have happend := forwarded_append ⟨t.events.take count⟩
  rw [show Trace.mk _ = (Trace.mk (t.events.take count)).append _ from rfl, happend, hview,
    ← happend, append, List.take_append_drop]

end Trace

namespace Gateway

variable {state : State}

/-! ## Running -/

namespace Serving

theorem run_bind {α β : Type} (first : Serving α) (f : α → Serving β) :
    (first >>= f).run state = (f (first.run state).1).run (first.run state).2 := rfl

theorem run_traced {α : Type} (t : Traced α) :
    (Serving.traced t).run state =
      ((t.run state.trace).1, { state with trace := (t.run state.trace).2 }) := rfl

theorem forwarded_log (level : LogLevel) (message : String) (fields : List (String × Json)) :
    ((Serving.log level message fields).run state).2.trace.forwarded = state.trace.forwarded :=
  ((Trace.Alike.refl state.trace).append (Remarks.line _)).forwarded.symm

theorem forwarded_within {α : Type} (span : LogSpan) (t : Serving α) :
    ((Serving.within span t).run state).2.trace.forwarded = (t.run state).2.trace.forwarded :=
  Trace.forwarded_within span _ _

end Serving

namespace Service

variable {s : Service} {request : Http.Incoming} {id : RequestId}

/-- The text of the URL that stands for a path and the query of a request at the page server. -/
def addressOf (s : Service) (request : Http.Incoming) (target : String) : String :=
  s.forwarder.pagesUrl ++ target ++ Url.marked "?" (request.uri.query.filter fun q => !q.isEmpty)

/-- The request to the page server under a path, if there is one that can be sent. -/
def outgoing? (s : Service) (request : Http.Incoming) (id : RequestId) (target : String) :
    Option Http.Outgoing :=
  match request.body with
  | .error _ => none
  | .ok body =>
    let page := pageRequest request target body id
    (page.outgoing (page.url s.forwarder.pagesUrl)).toOption

/-- Sending a request adds it to those that were sent, unless it cannot be sent. -/
theorem forwarded_send (f : Forwarder) (r : PageRequest) (t : Trace) :
    ((f.forward r).run t).2.forwarded =
      t.forwarded ++ ((r.outgoing (r.url f.pagesUrl)).toOption).toList := by
  unfold Forwarder.forward
  cases hout : r.outgoing (r.url f.pagesUrl) with
  | error e =>
    simp only [hout]
    exact (List.append_nil _).symm
  | ok out =>
    have hnoted : (t.append [.forwarded out]).forwarded = t.forwarded ++ [out] :=
      t.forwarded_append [.forwarded out]
    simp only [hout, StateT.run_bind, StateT.run_get, Traced.note, StateT.run_modify, pure_bind]
    rcases Http.exchange f.peer f.timeout t.forwarded out with ⟨error | received, time⟩
    · exact hnoted
    · exact hnoted

/-- Handing a request on under a path sends the request for that path. -/
theorem forwarded_forward (s : Service) (request : Http.Incoming) (id : RequestId) (target : String)
    (isChosen : Bool) (extra : Headers) (state : State) :
    ((s.forward request id target isChosen extra).run state).2.trace.forwarded =
      state.trace.forwarded ++ (s.outgoing? request id target).toList := by
  unfold forward outgoing?
  cases request.body with
  | error cause =>
    show ((Serving.log _ _ _).run state).2.trace.forwarded = _ ++ []
    rw [Serving.forwarded_log, List.append_nil]
  | ok body =>
    have hsend := forwarded_send s.forwarder (pageRequest request target body id) state.trace
    simp only [Serving.run_bind, Serving.run_traced]
    rcases hrun : (s.forwarder.forward (pageRequest request target body id)).run state.trace with
      ⟨⟨error | reply, time⟩, after⟩
    · rw [hrun] at hsend
      exact (Serving.forwarded_log _ _ _).trans hsend
    · rw [hrun] at hsend
      exact (Serving.forwarded_log _ _ _).trans hsend

/-- The request to the page server for a response of the chain, if there is one. -/
def respondedOutgoing? (s : Service) (request : Http.Incoming) (seen : Request) (id : RequestId)
    (response : Response) : Option Http.Outgoing :=
  (response.decision.effectivePath seen.path).bind (s.outgoing? request id)

theorem forwarded_carryOut (s : Service) (request : Http.Incoming) (seen : Request) (id : RequestId)
    (response : Response) (state : State) :
    ((s.carryOut request seen id response).run state).2.trace.forwarded =
      state.trace.forwarded ++ (s.respondedOutgoing? request seen id response).toList := by
  unfold carryOut respondedOutgoing?
  cases response.decision with
  | redirect location status =>
    exact (Serving.forwarded_log _ _ _).trans (List.append_nil _).symm
  | serve path => exact s.forwarded_forward request id path true response.headers state
  | passThrough => exact s.forwarded_forward request id seen.path false response.headers state

theorem run_route (s : Service) (request : Http.Incoming) (id : RequestId) (state : State) :
    (s.route request id).run state =
      (s.carryOut request (Request.ofUri request.uri request.headers) id
        (s.chain.start id state.trace (Request.ofUri request.uri request.headers)).1).run
          { state with
            trace :=
              (s.chain.start id state.trace
                (Request.ofUri request.uri request.headers)).2.trace } :=
  rfl

/-- The requests to the page server that a request has brought about. -/
def sent (s : Service) (vitals : Vitals) (fresh : RequestId) (request : Http.Incoming)
    (state : State) : List Http.Outgoing :=
  ((s.handle vitals fresh request).run state).2.trace.forwarded.drop state.trace.forwarded.length

/-- The identifier that a request is given. -/
def idFor (fresh : RequestId) (request : Http.Incoming) : RequestId :=
  (idOf? request).getD fresh

/-- **For a request that is not for the gateway itself, what was sent is what the chain has decided
on,** if the chain sends nothing on its own. -/
theorem sent_eq (s : Service) (vitals : Vitals) (fresh : RequestId) (request : Http.Incoming)
    (state : State) (hown : Path.afterStart? ownPrefix.toList request.uri.path.toList = none)
    (hchain : (s.chain.start (idFor fresh request) state.trace
      (Request.ofUri request.uri request.headers)).2.trace.forwarded = state.trace.forwarded) :
    s.sent vitals fresh request state =
      (s.respondedOutgoing? request (Request.ofUri request.uri request.headers)
        (idFor fresh request) (s.chain.start (idFor fresh request) state.trace
          (Request.ofUri request.uri request.headers)).1).toList := by
  unfold sent handle
  rw [Serving.forwarded_within]
  simp only [hown]
  rw [Serving.run_bind]
  show (((s.route request (idFor fresh request)).run state).2.trace.forwarded).drop _ = _
  rw [run_route, forwarded_carryOut, hchain, List.drop_left]

/-- What is sent for a request to an application comes of the decision about it. -/
theorem exists_target_of_sent {s : Service} {profile : Routing.Profile}
    {resolver : Session.Resolver} {backend : Registration.Backend} {now : Nat} {vitals : Vitals}
    {fresh : RequestId} {request : Http.Incoming} {state : State} {out : Http.Outgoing}
    (hchain : s.chain = profile.chain resolver backend now)
    (hown : Path.afterStart? ownPrefix.toList request.uri.path.toList = none)
    (h : out ∈ s.sent vitals fresh request state) :
    ∃ target,
      (s.chain.decision (idFor fresh request) state.trace
        (Request.ofUri request.uri request.headers)).effectivePath
          (Request.ofUri request.uri request.headers).path = some target ∧
      s.outgoing? request (idFor fresh request) target = some out := by
  rw [sent_eq s vitals fresh request state hown (by rw [hchain, Routing.Profile.forwarded_start]),
    Option.mem_toList, respondedOutgoing?, Option.bind_eq_some_iff] at h
  exact h

end Service
end Gateway
end Gatehouse
