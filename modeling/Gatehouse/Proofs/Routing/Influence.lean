import Gatehouse.Proofs.Registration.Calls
import Gatehouse.Proofs.Routing.Anonymous
import Gatehouse.Proofs.Routing.Parts
import Mathlib.Data.List.Forall2

/-!
# What has an influence on routing

A request has a path, a query and header fields; its session is of somebody or is not to be had, for
one reason or another; and about the user the backend is asked.  Only three of these have an
influence on what becomes of the request: the path, who the caller is, and what the backend replies.

This compares two runs, so it is stated for two chains of the same stages (`Part.Agree`): their
gates find the same callers, and their backends reply alike about these callers, though the requests
may differ in everything but the path, the sessions may fail for different reasons, and answers may
take their time.

* `RuleCheck.sent_verdict`, `RuleCheck.asked_verdict` — a check of the rules from the replies alone.
* `walk_agree` — by induction on the stages: two such walks record and answer the same.
* `Chain.start_of_agree` — two such runs decide the same, enter the same stages, record the same,
  make the same calls, and attach the same header fields if the requests have the same identifier.
-/

set_option autoImplicit false

namespace Gatehouse
namespace Routing

open Registration (Call Reply)

variable {request request' : Request}

/-! ## The check of the rules, from the replies -/

namespace RuleCheck

/-- What comes of the calls for the records of a user, given the calls before. -/
def replies (check : RuleCheck) (userId : String) (before : List Call) : List Reply :=
  check.backend.replies userId check.rules.sources before check.timeout

/-- The records by some replies. -/
def found (check : RuleCheck) (replies : List Reply) : Registration.Result :=
  (Reply.settle replies).getD (.error (.timeout check.timeout))

/-- The calls for the records of a caller, if the rules have to be checked. -/
def calls (check : RuleCheck) (request : Request) (caller : Option Claims) (before : List Call) :
    List Call :=
  match check.concerned? request caller with
  | none => []
  | some claims =>
    Registration.callsFor claims.userId check.rules.sources
      (check.replies claims.userId before).length

theorem run_facts (check : RuleCheck) (userId : String) (t : Trace) :
    ∃ events, (check.facts userId).run t =
        (check.found (check.replies userId t.asked), t.append events) ∧
      Trace.asked ⟨events⟩ = Registration.callsFor userId check.rules.sources
        (check.replies userId t.asked).length ∧
      (.silence ∉ check.replies userId t.asked →
        Trace.answered ⟨events⟩ = Trace.asked ⟨events⟩) := by
  obtain ⟨events, hrun, hasked, -, hanswered⟩ := Registration.fetch_eq_replies check.backend userId
    check.rules.sources check.timeout t
  refine ⟨events, ?_, hasked, hanswered⟩
  simp only [facts, found, replies, StateT.run_bind, hrun]
  cases Reply.settle (check.backend.replies userId check.rules.sources t.asked check.timeout) with
  | none | some result => rfl

/-- Where a caller is sent, from the replies. -/
theorem sent_verdict (check : RuleCheck) (request : Request) (caller : Option Claims) (t : Trace) :
    (check.verdict request caller t).1 =
      (check.concerned? request caller).bind fun claims =>
        check.objection? (check.found (check.replies claims.userId t.asked)) := by
  cases hconcerned : check.concerned? request caller with
  | none => rw [verdict_of_unconcerned hconcerned, Option.bind_none]
  | some claims =>
    obtain ⟨events, hrun, -, -⟩ := check.run_facts claims.userId t
    rw [verdict_of_concerned hconcerned, hrun, Option.bind_some]

/-- The calls of a check, from the replies. -/
theorem asked_verdict (check : RuleCheck) (request : Request) (caller : Option Claims) (t : Trace) :
    (check.verdict request caller t).2.asked = t.asked ++ check.calls request caller t.asked := by
  rw [calls]
  cases hconcerned : check.concerned? request caller with
  | none => rw [verdict_of_unconcerned hconcerned, List.append_nil]
  | some claims =>
    obtain ⟨events, hrun, hasked, -⟩ := check.run_facts claims.userId t
    rw [verdict_of_concerned hconcerned, hrun, Trace.asked_append, hasked]

/-- If no reply is missing, all of these calls are answered. -/
theorem answered_verdict (check : RuleCheck) (request : Request) (caller : Option Claims)
    (t : Trace) (h : ∀ claims : Claims, .silence ∉ check.replies claims.userId t.asked) :
    (check.verdict request caller t).2.answered =
      t.answered ++ check.calls request caller t.asked := by
  rw [calls]
  cases hconcerned : check.concerned? request caller with
  | none => rw [verdict_of_unconcerned hconcerned, List.append_nil]
  | some claims =>
    obtain ⟨events, hrun, hasked, hanswered⟩ := check.run_facts claims.userId t
    rw [verdict_of_concerned hconcerned, hrun, Trace.answered_append, hanswered (h claims), hasked]

theorem concerned?_congr {check check' : RuleCheck} (hbase : check'.basePath = check.basePath)
    (hrules : check'.rules = check.rules) (hpath : request'.path = request.path)
    (caller : Option Claims) :
    check'.concerned? request' caller = check.concerned? request caller := by
  rw [concerned?, concerned?, appPath, appPath, hbase, hrules, hpath]

/-- Whom the rules concern is the caller. -/
theorem eq_some_of_concerned {check : RuleCheck} {caller : Option Claims} {claims : Claims}
    (h : check.concerned? request caller = some claims) : caller = some claims :=
  (Option.filter_eq_some_iff.1 h).1

end RuleCheck

/-! ## Stages that agree -/

/-- Two parts that are the same stage, as far as two requests are concerned: two gates find the same
caller or both find none, and the backends of two checks reply alike about known callers, whatever
has been asked in the meantime. -/
inductive Part.Agree (request request' : Request) (known : List Claims)
    (before before' : List Call) :
    Part → Part → Prop
  | gate {gate : Gate} {resolver' : Session.Resolver} {now now' : Nat}
      (session : (gate.resolver now request).toOption = (resolver' now' request').toOption) :
      Agree request request' known before before' (.gate gate now)
        (.gate { gate with resolver := resolver' } now')
  | ruleCheck {check : RuleCheck} {backend' : Registration.Backend}
      (replies : ∀ claims ∈ known, ∀ made,
        check.replies claims.userId (before ++ made) =
          { check with backend := backend' }.replies claims.userId (before' ++ made)) :
      Agree request request' known before before' (.ruleCheck check)
        (.ruleCheck { check with backend := backend' })
  | stamp : Agree request request' known before before' .stamp .stamp

/-- The same context for a request with another identifier. -/
def Context.withId (context : Context) (id : RequestId) : Context :=
  { context with requestId := id }

/-- The same move for a request with another identifier. -/
def Move.withId (id : RequestId) : Move → Move
  | .answer response => .answer response
  | .goOn context => .goOn (context.withId id)

theorem Move.withId_sendOr (context : Context) (sent : Option String) (id : RequestId) :
    (Move.sendOr context sent).withId id = .sendOr (context.withId id) sent := by
  cases sent with
  | none | some location => rfl

/-- The gate makes the same move for the same path and the same caller. -/
theorem Gate.move_withId {gate : Gate} {resolver' : Session.Resolver} {now now' : Nat}
    (hpath : request'.path = request.path)
    (hsession : (gate.resolver now request).toOption = (resolver' now' request').toOption)
    (context : Context) (id : RequestId) :
    { gate with resolver := resolver' }.move now' request' (context.withId id) =
      (gate.move now request context).withId id := by
  let gate' : Gate := { gate with resolver := resolver' }
  have hexempt : gate'.isExempt request' = gate.isExempt request := isExempt_congr hpath
  have hlisted : gate'.isAllowListed request' = gate.isAllowListed request :=
    isAllowListed_congr hpath
  cases hgate : gate.isExempt request with
  | true => rw [move_of_exempt hgate, move_of_exempt (hexempt.trans hgate), Move.withId]
  | false =>
    rw [hgate] at hexempt
    cases hfirst : gate.resolver now request with
    | ok claims =>
      cases hsecond : resolver' now' request' with
      | error error =>
        rw [hfirst, hsecond] at hsession
        cases hsession
      | ok claims' =>
        rw [hfirst, hsecond] at hsession
        cases hsession
        have hadmitted : gate'.admitted request' claims (context.withId id) =
            (gate.admitted request claims context).withId id := by
          have hserved : gate'.servedPath claims request' = gate.servedPath claims request := by
            rw [servedPath, servedPath, hpath]
          rw [admitted, admitted, hlisted, hserved]
          rfl
        rw [move_of_known hgate hfirst, move_of_known hexempt hsecond, hadmitted, Move.withId]
    | error error =>
      cases hsecond : resolver' now' request' with
      | ok claims' =>
        rw [hfirst, hsecond] at hsession
        cases hsession
      | error error' =>
        rw [move_of_unknown hgate hfirst, move_of_unknown hexempt hsecond, hlisted]
        split <;> rfl

namespace Part.Agree

variable {known : List Claims} {before before' made : List Call} {part part' : Part}
  {context : Context} {trace trace' : Trace}

theorem name (h : Agree request request' known before before' part part') :
    part'.step.stage.name = part.step.stage.name := by
  cases h with
  | gate | ruleCheck | stamp => rfl

theorem dress (h : Agree request request' known before before' part part') :
    part'.step.dress = part.step.dress := by
  cases h with
  | gate | ruleCheck | stamp => rfl

/-- **Stages that agree make the same move and the same calls.** -/
theorem move (h : Agree request request' known before before' part part')
    (hpath : request'.path = request.path) (hknown : ∀ claims ∈ context.claims, claims ∈ known)
    (htrace : trace.asked = before ++ made) (htrace' : trace'.asked = before' ++ made)
    (id : RequestId) :
    (part'.step.move request' (context.withId id) trace').1 =
        (part.step.move request context trace).1.withId id ∧
      ∃ calls, (part.step.move request context trace).2.asked = before ++ (made ++ calls) ∧
        (part'.step.move request' (context.withId id) trace').2.asked =
          before' ++ (made ++ calls) := by
  cases h with
  | gate hsession =>
    refine ⟨Gate.move_withId hpath hsession context id, [], ?_, ?_⟩
    · rw [List.append_nil]
      exact htrace
    · rw [List.append_nil]
      exact htrace'
  | @ruleCheck check backend' hreplies =>
    let check' : RuleCheck := { check with backend := backend' }
    have hconcerned : check'.concerned? request' context.claims =
        check.concerned? request context.claims := RuleCheck.concerned?_congr rfl rfl hpath _
    have hsame : ∀ claims, check.concerned? request context.claims = some claims →
        check.replies claims.userId trace.asked = check'.replies claims.userId trace'.asked := by
      intro claims hsome
      rw [htrace, htrace']
      exact hreplies claims (hknown claims (RuleCheck.eq_some_of_concerned hsome)) made
    constructor
    · have hsent : (check'.verdict request' context.claims trace').1 =
          (check.verdict request context.claims trace).1 := by
        rw [RuleCheck.sent_verdict, RuleCheck.sent_verdict, hconcerned]
        refine Option.bind_congr fun claims hsome => ?_
        rw [← hsame claims hsome]
        rfl
      exact (congrArg (Move.sendOr (context.withId id)) hsent).trans
        (Move.withId_sendOr context _ id).symm
    · have hcalls : check'.calls request' context.claims trace'.asked =
          check.calls request context.claims trace.asked := by
        rw [RuleCheck.calls, RuleCheck.calls, hconcerned]
        cases hsome : check.concerned? request context.claims with
        | none => rfl
        | some claims => simp only [← hsame claims hsome, check']
      refine ⟨check.calls request context.claims trace.asked, ?_, ?_⟩
      · rw [← List.append_assoc, ← htrace]
        exact check.asked_verdict request context.claims trace
      · rw [← List.append_assoc, ← htrace', ← hcalls]
        exact check'.asked_verdict request' context.claims trace'
  | stamp =>
    refine ⟨rfl, [], ?_, ?_⟩
    · rw [List.append_nil]
      exact htrace
    · rw [List.append_nil]
      exact htrace'

/-- Whomever a part goes on with is known if the caller it has found is. -/
theorem claims_onward {onward : Context} {after : Trace}
    (hknown : ∀ claims ∈ context.claims, claims ∈ known)
    (hcaller : ∀ claims ∈ part.caller? request, claims ∈ known)
    (h : part.step.move request context trace = (.goOn onward, after)) :
    ∀ claims ∈ onward.claims, claims ∈ known := by
  intro claims hclaims
  rw [Part.onward_eq h] at hclaims
  rcases Option.or_eq_some_iff.1 hclaims with hfound | ⟨-, hbefore⟩
  · exact hcaller claims hfound
  · exact hknown claims hbefore

end Part.Agree

/-! ## Walks that agree -/

/-- Two walks that end the same, for a request and another with an identifier of its own: they have
answered and recorded the same and made the same calls. -/
structure Finish.Agree (before before' made : List Call) (id : RequestId)
    (finish finish' : Finish) :
    Prop where
  decision : finish'.response.decision = finish.response.decision
  context : finish'.context = finish.context.withId id
  headers : finish.context.requestId = id → finish'.response.headers = finish.response.headers
  asked : ∃ calls, finish.trace.asked = before ++ (made ++ calls) ∧
    finish'.trace.asked = before' ++ (made ++ calls)

namespace Finish.Agree

variable {before before' made more : List Call} {id : RequestId} {finish finish' : Finish}

/-- Calls that both have made before may be counted among those of the walks. -/
theorem of_more (h : Finish.Agree before before' (made ++ more) id finish finish') :
    Finish.Agree before before' made id finish finish' := by
  obtain ⟨calls, hasked, hasked'⟩ := h.asked
  rw [List.append_assoc] at hasked hasked'
  exact { h with asked := ⟨more ++ calls, hasked, hasked'⟩ }

/-- With the same identifier the same is recorded. -/
theorem context_eq (h : Finish.Agree before before' made id finish finish')
    (hid : finish.context.requestId = id) : finish'.context = finish.context := by
  rw [h.context]
  subst hid
  rfl

/-- With the same identifier the same is answered. -/
theorem response_eq (h : Finish.Agree before before' made id finish finish')
    (hid : finish.context.requestId = id) : finish'.response = finish.response := by
  have hheaders := h.headers hid
  have hdecision := h.decision
  revert hheaders hdecision
  rcases finish.response with ⟨decision, headers⟩
  rcases finish'.response with ⟨decision', headers'⟩
  rintro rfl rfl
  rfl

/-- What is added on the way back depends on the identifier and on nothing else. -/
theorem dressed (h : Finish.Agree before before' made id finish finish')
    (dress : Context → Headers → Headers) :
    Finish.Agree before before' made id (finish.dressed dress) (finish'.dressed dress) where
  decision := h.decision
  context := h.context
  headers hid := by
    simp only [Finish.dressed, h.context_eq hid, h.headers hid]
  asked := h.asked

end Finish.Agree

/-- **Walks through stages that agree end the same.** -/
theorem walk_agree {known : List Claims} {before before' : List Call} {parts parts' : List Part}
    (h : List.Forall₂ (Part.Agree request request' known before before') parts parts')
    (hpath : request'.path = request.path) (id : RequestId)
    (hcallers : ∀ claims ∈ callers request parts, claims ∈ known) :
    ∀ {context : Context} {trace trace' : Trace} {made : List Call},
      (∀ claims ∈ context.claims, claims ∈ known) →
      trace.asked = before ++ made → trace'.asked = before' ++ made →
        Finish.Agree before before' made id
          (walk request (parts.map Part.step) context trace)
          (walk request' (parts'.map Part.step) (context.withId id) trace') := by
  -- by induction on the stages; what carries it is that both have made the same calls so far, and
  -- that whoever is recorded as the caller is known
  induction h with
  | nil =>
    intro context trace trace' made _ htrace htrace'
    exact ⟨rfl, rfl, fun _ => rfl, [], by rw [List.append_nil]; exact htrace,
      by rw [List.append_nil]; exact htrace'⟩
  | @cons part part' parts parts' hpart _ ih =>
    intro context trace trace' made hknown htrace htrace'
    let entered := context.enter part.step.stage.name
    have hentered : (context.withId id).enter part'.step.stage.name = entered.withId id := by
      rw [hpart.name]
      rfl
    have hcaller : ∀ claims ∈ entered.claims, claims ∈ known := hknown
    obtain ⟨hmove', calls, hmoved, hmoved'⟩ := hpart.move hpath hcaller htrace htrace' id
    rw [← hentered] at hmove' hmoved'
    rcases hfirst : part.step.move request entered trace with ⟨move, after⟩
    rcases hsecond : part'.step.move request' ((context.withId id).enter part'.step.stage.name)
      trace' with ⟨move', after'⟩
    rw [hfirst] at hmove' hmoved
    rw [hsecond] at hmove' hmoved'
    obtain rfl : move' = move.withId id := hmove'
    cases move with
    | answer response =>
      rw [List.map_cons, List.map_cons, walk_of_answer hfirst, walk_of_answer hsecond]
      exact ⟨rfl, hentered, fun _ => rfl, calls, hmoved, hmoved'⟩
    | goOn onward =>
      have hfound : ∀ claims ∈ part.caller? request, claims ∈ known := fun claims hclaims =>
        hcallers claims (List.mem_filterMap.2 ⟨part, List.mem_cons_self, hclaims⟩)
      have hrest : ∀ claims ∈ callers request parts, claims ∈ known := fun claims hclaims => by
        obtain ⟨other, hother, hother'⟩ := List.mem_filterMap.1 hclaims
        exact hcallers claims
          (List.mem_filterMap.2 ⟨other, List.mem_cons_of_mem part hother, hother'⟩)
      have honward := Part.Agree.claims_onward hcaller hfound hfirst
      rw [List.map_cons, List.map_cons, walk_of_goOn hfirst, walk_of_goOn hsecond, hpart.dress]
      exact ((ih hrest honward hmoved hmoved').dressed _).of_more

/-! ## Chains that agree -/

namespace Chain

/-- Where the run of a chain ends, for a request of which nothing is known yet. -/
def finish (chain : Chain) (id : RequestId) (trace : Trace) (request : Request) : Finish where
  response := (chain.start id trace request).1
  context := (chain.start id trace request).2.context
  trace := (chain.start id trace request).2.trace

variable {parts parts' : List Part} {trace trace' : Trace}

theorem requestId_finish (label : String) (parts : List Part) (id : RequestId) (trace : Trace)
    (request : Request) :
    ((ofParts label parts).finish id trace request).context.requestId = id := by
  obtain ⟨after, -, hstart⟩ := start_ofParts label parts id trace request
  rw [finish, hstart]
  exact requestId_walk request parts _ trace

/-- **Chains of stages that agree about the callers of a request end the same.** -/
theorem finish_agree
    (h : List.Forall₂
      (Part.Agree request request' (callers request parts) trace.asked trace'.asked) parts parts')
    (hpath : request'.path = request.path) (label label' : String) (id id' : RequestId) :
    Finish.Agree trace.asked trace'.asked [] id' ((ofParts label parts).finish id trace request)
      ((ofParts label' parts').finish id' trace' request') := by
  obtain ⟨after, halike, hstart⟩ := start_ofParts label parts id trace request
  obtain ⟨after', halike', hstart'⟩ := start_ofParts label' parts' id' trace' request'
  have hwalk : Finish.Agree trace.asked trace'.asked [] id'
      (walk request (parts.map Part.step) { requestId := id } trace)
      (walk request' (parts'.map Part.step) { requestId := id' } trace') :=
    walk_agree h hpath id' (fun _ hclaims => hclaims)
      (fun _ hclaims => absurd hclaims (Option.not_mem_none _))
      (List.append_nil _).symm (List.append_nil _).symm
  unfold finish
  rw [hstart, hstart']
  refine { hwalk with asked := ?_ }
  rw [← halike.asked, ← halike'.asked]
  exact hwalk.asked

/-- **Of a request only the path and the caller have an influence, and of the backends only what
they reply about the caller.**  Two chains of the same stages, whose gates find the same callers for
two requests for one path, and whose backends reply alike about these callers, come to the same: the
decision, the stages entered, the recorded path and caller, and the calls; and if the requests have
the same identifier, the header fields. -/
theorem start_of_agree
    (h : List.Forall₂
      (Part.Agree request request' (callers request parts) trace.asked trace'.asked) parts parts')
    (hpath : request'.path = request.path) (label : String) (id id' : RequestId) :
    let first := (ofParts label parts).start id trace request
    let second := (ofParts label parts').start id' trace' request'
    second.1.decision = first.1.decision ∧
      second.2.context.visited = first.2.context.visited ∧
      second.2.context.served = first.2.context.served ∧
      second.2.context.claims = first.2.context.claims ∧
      (∃ calls, first.2.trace.asked = trace.asked ++ calls ∧
        second.2.trace.asked = trace'.asked ++ calls) ∧
      (id' = id → second.1.headers = first.1.headers) := by
  have hfinish := finish_agree h hpath label label id id'
  have hcontext : ((ofParts label parts').start id' trace' request').2.context =
      ((ofParts label parts).start id trace request).2.context.withId id' := hfinish.context
  refine ⟨hfinish.decision, by rw [hcontext, Context.withId], by rw [hcontext, Context.withId],
    by rw [hcontext, Context.withId], hfinish.asked, fun hid => hfinish.headers ?_⟩
  rw [hid]
  exact requestId_finish label parts id trace request

/-- A record for the user whom `bearerOnly` knows, in a table by itself and in one with others from
which it takes some time to come: the caller is sent to the operator either way, whatever else
stands in the request. -/
theorem start_of_agree_registration :
    let profile := Profile.forApp .registration
    let facts : Facts := ⟨.approved, "7", .approved, "Acme"⟩
    let quick : Registration.Records := { current := [("u", facts)] }
    let slow : Registration.Records :=
      { current := [("v", facts), ("u", facts)], currentDelay := .milliseconds 40 }
    let plain := Request.ofPath "/registration/select-operator" Profile.bearerField
    let busy := (Request.ofPath "/registration/select-operator"
      (Profile.bearerField.insert "accept" (Text.bytes "*/*"))).withQuery "page" "2"
    let first := (profile.chain Profile.bearerOnly quick.backend 0).start ⟨1⟩ {} plain
    let second := (profile.chain Profile.bearerOnly slow.backend 9).start ⟨1⟩ {} busy
    first.1.decision = .redirect "/registration/my-operator" .temporaryRedirect ∧
      second.1.decision = first.1.decision ∧ second.1.headers = first.1.headers := by
  intro profile facts quick slow plain busy
  have hparts : List.Forall₂
      (Part.Agree plain busy
        (callers plain (profile.parts Profile.bearerOnly quick.backend 0))
        (Trace.asked {}) (Trace.asked {}))
      (profile.parts Profile.bearerOnly quick.backend 0)
      (profile.parts Profile.bearerOnly slow.backend 9) := by
    rw [Profile.callers_parts]
    refine .cons (.gate rfl) (.cons (.ruleCheck fun claims hclaims made => ?_) (.cons .stamp .nil))
    obtain rfl := List.mem_singleton.1 hclaims
    rfl
  have hpath : busy.path = plain.path := rfl
  obtain ⟨hdecision, -, -, -, -, hheaders⟩ :=
    start_of_agree hparts hpath profile.label ⟨1⟩ ⟨1⟩
  exact ⟨by decide, hdecision, hheaders rfl⟩

end Chain
end Routing
end Gatehouse
