import Gatehouse.Proofs.Gateway.AskedOnce
import Gatehouse.Proofs.Routing.RequestAccess

/-!
# Redirects on the wire

A redirect is decided as a text, and a text goes to the caller as a header value if it can be one.
The locations of an application are its pages, where people sign in, and the page for users who
wait.  All of these can be header values but the last, which has the identifier of an operator in it
as it is.  With a control character in the identifier, the caller is told of a fault of the gateway.

* `Service.redirect_of_value`, `Service.fault_of_no_value` — the two ways in which a redirect is
  answered.
* `Routing.Profile.isValueChar_location_iff` — which locations of an application can be header
  values.
* `Service.redirects_arrive_iff` — when the redirect of an application arrives as it was decided.
* `Service.redirect_lost` — a redirect that is answered with a fault.
-/

set_option autoImplicit false

namespace Gatehouse

open Registration (Reply)

/-! ## Answers to redirects -/

/-- What may stand in a query may stand in a header value. -/
theorem isValueChar_of_isQueryChar {c : Char} (h : Http.Uri.isQueryChar c = true) :
    Headers.isValueChar c = true := by
  have hrange : 0x20 ≤ c.toNat ∧ c.toNat ≠ 0x7F := by
    simp only [Http.Uri.isQueryChar, Bool.or_eq_true, Bool.and_eq_true, beq_iff_eq,
      decide_eq_true_eq] at h
    omega
  have hblank : ' ' ≤ c := hrange.1
  have hdelete : c ≠ '\x7f' := by
    rintro rfl
    exact hrange.2 rfl
  simp [Headers.isValueChar, hblank, hdelete]

namespace Gateway
namespace Service

variable {s : Service} {fresh : RequestId} {request : Http.Incoming} {state : State}
  {location : String} {status : Http.Status}

/-- **A redirect arrives as it was decided if its location can be a header value.** -/
theorem redirect_of_value (vitals : Vitals) (hbuilt : s.chain.IsBuilt)
    (hendpoint : endpoint? request = none)
    (hsent : (s.routed fresh request state).1.decision = .redirect location status)
    (h : ∀ c ∈ location.toList, Headers.isValueChar c = true) :
    (s.reply vitals fresh request state).status = status ∧
      (s.reply vitals fresh request state).headers.getAll "location" = [Text.bytes location] := by
  -- no stage attaches a location of its own
  have hlocation : "location" ∉ (s.routed fresh request state).1.headers.names :=
    hbuilt.notMem_names (by decide) _ _ _
  rw [reply_of_redirect vitals (not_own_of_endpoint hendpoint) hsent, redirectReply,
    Headers.value?_bytes_of_forall h]
  constructor
  · rw [status_addIfMissing]
    rfl
  · rw [getAll_addIfMissing_of_ne _ (by decide), getAll_merge_of_notMem _ hlocation]
    exact Headers.getAll_insert_self _ _ _

/-- If it cannot, the caller is told of a fault of the gateway. -/
theorem fault_of_no_value (vitals : Vitals) (hendpoint : endpoint? request = none)
    (hsent : (s.routed fresh request state).1.decision = .redirect location status)
    (h : ¬ ∀ c ∈ location.toList, Headers.isValueChar c = true) :
    (s.reply vitals fresh request state).status = .internalServerError := by
  rw [reply_of_redirect vitals (not_own_of_endpoint hendpoint) hsent, redirectReply,
    Headers.value?_bytes_of_not_forall h, status_addIfMissing]
  rfl

end Service
end Gateway

/-! ## Locations of an application -/

namespace Routing
namespace Profile

variable {profile : Profile} {resolver : Session.Resolver} {backend : Registration.Backend}
  {now : Nat} {request : Request} {id : RequestId} {trace : Trace} {claims : Claims}
  {facts : Facts} {location : String} {status : Http.Status} {app : App}

/-- Whether the caller of a request is judged by a record of a user who waits, under the rules about
selecting an operator. -/
def IsToWait (profile : Profile) (resolver : Session.Resolver) (backend : Registration.Backend)
    (now : Nat) (request : Request) (trace : Trace) (facts : Facts) : Prop :=
  profile.rules = some Rule.selectOperator ∧
    ∃ claims, resolver now request = .ok claims ∧
      profile.settlingReply backend trace claims.userId = .record facts ∧ facts.IsWaiting

/-- The page for users who wait can be a header value just if the identifier of the operator can,
where the base can. -/
theorem isValueChar_waitingPage_iff
    (hbase : ∀ c ∈ profile.basePath.toList, Headers.isValueChar c = true) (facts : Facts) :
    (∀ c ∈ (profile.waitingPage facts).toList, Headers.isValueChar c = true) ↔
      ∀ c ∈ facts.operatorId.toList, Headers.isValueChar c = true := by
  have hslash : Headers.isValueChar '/' = true := by decide
  have hpage : (∀ c ∈ (Rule.requestAccessPath facts.operatorId).toList,
      Headers.isValueChar c = true) ↔
        ∀ c ∈ facts.operatorId.toList, Headers.isValueChar c = true := by
    have hfront :
        "/select-operator/received/request-access/".toList.all Headers.isValueChar = true := by
      decide +kernel
    rw [Rule.toList_requestAccessPath, List.forall_mem_append]
    exact and_iff_right (List.all_eq_true.1 hfront)
  have hquery : ∀ c ∈ ("?" ++ Url.Form.render [("title", facts.legalName)]).toList,
      Headers.isValueChar c = true := by
    rw [String.toList_append, List.forall_mem_append]
    refine ⟨List.all_eq_true.1 (by decide), fun c hc => ?_⟩
    exact isValueChar_of_isQueryChar (Url.Form.isQueryChar_render hc)
  rw [waitingPage, String.append_assoc, String.toList_append, List.forall_mem_append,
    String.toList_ofList, Path.all_join_iff hslash, hpage]
  exact ⟨fun h => h.1.2, fun h => ⟨⟨hbase, h⟩, hquery⟩⟩

/-- The rules about operations send callers to the root of the application and nowhere else. -/
theorem eq_base_of_objectionTo_operations (hbase : Path.IsNormal profile.basePath.toList)
    {reply : Reply}
    (h : (profile.ruleCheck backend Rule.operations).objectionTo reply = some location) :
    location = profile.basePath := by
  have hsettled : profile.OperationsSettled reply
      (sentOr ((profile.ruleCheck backend Rule.operations).objectionTo reply) .passThrough) :=
    operationsSettled hbase reply rfl
  rw [h] at hsettled
  exact (Decision.redirect.inj (hsettled.sentAway rfl)).1

/-- The rules about selecting an operator send callers who do not wait to one of two pages. -/
theorem eq_page_of_objectionTo_selectOperator (hbase : Path.IsNormal profile.basePath.toList)
    {reply : Reply}
    (h : (profile.ruleCheck backend Rule.selectOperator).objectionTo reply = some location) :
    (∃ facts, reply = .record facts ∧ facts.IsWaiting ∧ location = profile.waitingPage facts) ∨
      ((∀ facts, reply = .record facts → ¬ facts.IsWaiting) ∧
        (location = profile.basePath ∨ location = profile.mount ++ "/my-operator")) := by
  cases reply with
  | noRecord => cases h
  | failure | silence =>
    refine Or.inr ⟨fun facts hfacts => Reply.noConfusion hfacts, Or.inl ?_⟩
    rw [← Option.some.inj h]
    exact RuleCheck.appRoot_eq hbase
  | record facts =>
    by_cases hwaiting : facts.IsWaiting
    · rw [objectionTo_of_waiting backend hwaiting] at h
      exact Or.inl ⟨facts, rfl, hwaiting, (Option.some.inj h).symm⟩
    · refine Or.inr ⟨fun other hother => Reply.record.inj hother ▸ hwaiting, Or.inr ?_⟩
      rw [objectionTo_selectOperator] at h
      split at h
      · rw [← Option.some.inj h, location_myOperator hbase]
      · next hother =>
        rw [if_neg fun hpending => hwaiting ⟨hother, hpending⟩] at h
        cases h

/-- The base of an application is in normal form, and can be a header value. -/
theorem base_forApp (app : App) : Path.IsNormal (forApp app).basePath.toList ∧
    ∀ c ∈ (forApp app).basePath.toList, Headers.isValueChar c = true := by
  cases app with
  | _ => exact ⟨by decide, List.all_eq_true.1 (by decide)⟩

/-- **The location that an application sends a caller to can be a header value,** unless the caller
is to wait, and the identifier of the operator cannot be one. -/
theorem isValueChar_location_iff
    (h : ((forApp app).chain resolver backend now).decision id trace request =
      .redirect location status) :
    (∀ c ∈ location.toList, Headers.isValueChar c = true) ↔
      ∀ facts, (forApp app).IsToWait resolver backend now request trace facts →
        ∀ c ∈ facts.operatorId.toList, Headers.isValueChar c = true := by
  obtain ⟨hnormal, hbase⟩ := base_forApp app
  cases (isSent_of_redirected h).2 with
  | unknown hsession hpage =>
    obtain rfl : location = "/onboarding" := hpage
    refine iff_of_true (List.all_eq_true.1 (by decide)) ?_
    rintro facts ⟨-, claims, hclaims, -⟩
    cases hsession.symm.trans hclaims
  | @known claims hsession hverdict =>
    cases app with
    | dashboard => cases hverdict
    | administration =>
      have hreply := Registration.fetch_singleton backend claims.userId .current
        (forApp .administration).ruleTimeout trace
      have hobjection :=
        objectionTo_of_redirected (rfl : _ = some Rule.operations) hsession hreply h
      rw [eq_base_of_objectionTo_operations hnormal hobjection]
      refine iff_of_true hbase ?_
      rintro facts ⟨hrules, -⟩
      exact absurd (Option.some.inj hrules) Rule.operations_ne_selectOperator
    | registration =>
      have hreply := Registration.fetch_current_pending backend claims.userId
        (forApp .registration).ruleTimeout trace
      have hobjection := objectionTo_of_redirected (rfl : _ = some Rule.selectOperator) hsession
        hreply h
      rcases eq_page_of_objectionTo_selectOperator hnormal hobjection with
        ⟨facts, hfacts, hwaiting, rfl⟩ | ⟨hnobody, hpage⟩
      · rw [isValueChar_waitingPage_iff hbase]
        constructor
        · rintro hid other ⟨-, claims', hclaims, hother, -⟩
          obtain rfl := Except.ok.inj (hsession.symm.trans hclaims)
          obtain rfl := Reply.record.inj (hfacts.symm.trans hother)
          exact hid
        · intro hall
          exact hall facts ⟨rfl, claims, hsession, hfacts, hwaiting⟩
      · refine iff_of_true ?_ ?_
        · rcases hpage with rfl | rfl
          · exact hbase
          · exact List.all_eq_true.1 (by decide)
        · rintro facts ⟨-, claims', hclaims, hfacts, hwaiting⟩
          obtain rfl := Except.ok.inj (hsession.symm.trans hclaims)
          exact absurd hwaiting (hnobody facts hfacts)

end Profile
end Routing

/-! ## Redirects of an application -/

namespace Gateway
namespace Service

open Routing (Profile)

variable {s : Service} {resolver : Session.Resolver} {backend : Registration.Backend} {now : Nat}
  {fresh : RequestId} {request : Http.Incoming} {state : State} {location : String}
  {status : Http.Status}

/-- **The redirect of an application arrives as it was decided just if the caller is not to wait, or
the identifier of the operator can be a header value.**  Otherwise the caller is told of a fault of
the gateway. -/
theorem redirects_arrive_iff (app : App)
    (hchain : s.chain = (Profile.forApp app).chain resolver backend now) (vitals : Vitals)
    (hendpoint : endpoint? request = none)
    (hsent : s.chain.decision (idFor fresh request) state.trace
      (.ofUri request.uri request.headers) = .redirect location status) :
    status = .temporaryRedirect ∧
    ((s.reply vitals fresh request state).status = .temporaryRedirect ∧
        (s.reply vitals fresh request state).headers.getAll "location" = [Text.bytes location] ↔
      ∀ facts, (Profile.forApp app).IsToWait resolver backend now
          (.ofUri request.uri request.headers) state.trace facts →
        ∀ c ∈ facts.operatorId.toList, Headers.isValueChar c = true) ∧
    ((s.reply vitals fresh request state).status = .internalServerError ↔
      ∃ facts, (Profile.forApp app).IsToWait resolver backend now
          (.ofUri request.uri request.headers) state.trace facts ∧
        ∃ c ∈ facts.operatorId.toList, Headers.isValueChar c = false) := by
  have hbuilt : s.chain.IsBuilt := hchain ▸ (Profile.forApp app).isBuilt resolver backend now
  have hlocation := Profile.isValueChar_location_iff (hchain ▸ hsent)
  obtain rfl : status = .temporaryRedirect := Profile.status_of_redirected (hchain ▸ hsent)
  refine ⟨rfl, ?_⟩
  by_cases hvalue : ∀ c ∈ location.toList, Headers.isValueChar c = true
  · have harrives := redirect_of_value vitals hbuilt hendpoint hsent hvalue
    refine ⟨iff_of_true harrives (hlocation.1 hvalue), iff_of_false ?_ ?_⟩
    · rw [harrives.1]
      decide
    · rintro ⟨facts, hwaiting, c, hc, hcontrol⟩
      rw [hlocation.1 hvalue facts hwaiting c hc] at hcontrol
      cases hcontrol
  · have hfault := fault_of_no_value vitals hendpoint hsent hvalue
    refine ⟨iff_of_false ?_ fun h => hvalue (hlocation.2 h), iff_of_true hfault ?_⟩
    · rintro ⟨hstatus, -⟩
      rw [hfault] at hstatus
      revert hstatus
      decide
    · have hsome := mt hlocation.2 hvalue
      simpa only [not_forall, exists_prop, Bool.not_eq_true] using hsome

/-- The gateway of the registration application for an industry user with a record. -/
def registrationFor (facts : Facts) : Service :=
  withChain plainConfig ((Profile.forApp .registration).chain
    (Session.fixed (some Profile.industryUser))
    (Registration.Records.backend { current := [("u", facts)] }) 0) .unreachable

/-- Blanks and letters of any script arrive, though they are no location of a page. -/
theorem redirects_arrive_iff_blank :
    ((registrationFor (Profile.waitingFor "№ 7" "Alpha")).reply {} ⟨1⟩
        (bareRequest "/registration/select-operator") {}).status = .temporaryRedirect ∧
      ((registrationFor (Profile.waitingFor "№ 7" "Alpha")).reply {} ⟨1⟩
          (bareRequest "/registration/select-operator") {}).headers.getAll "location" =
        [Text.bytes "/registration/select-operator/received/request-access/№ 7?title=Alpha"] := by
  have hsent : (registrationFor (Profile.waitingFor "№ 7" "Alpha")).chain.decision
      (idFor ⟨1⟩ (bareRequest "/registration/select-operator")) (State.trace {})
      (.ofUri (bareRequest "/registration/select-operator").uri {}) =
        .redirect "/registration/select-operator/received/request-access/№ 7?title=Alpha"
          .temporaryRedirect := by decide +kernel
  have hreply : (Profile.forApp .registration).settlingReply (Registration.Records.backend
      { current := [("u", Profile.waitingFor "№ 7" "Alpha")] }) {} "u" =
        .record (Profile.waitingFor "№ 7" "Alpha") := by decide
  refine (redirects_arrive_iff .registration rfl {} (by decide) hsent).2.1.2 ?_
  rintro facts ⟨-, claims, hclaims, hfacts, -⟩
  obtain rfl : Profile.industryUser = claims := Except.ok.inj hclaims
  obtain rfl := Reply.record.inj (hreply.symm.trans hfacts)
  exact List.all_eq_true.1 (by decide)

/-- With a line feed in the identifier of the operator there is no redirect. -/
theorem redirect_lost :
    (registrationFor (Profile.waitingFor "4\n2" "Alpha")).chain.decision ⟨1⟩ {}
        (.ofUri (bareRequest "/registration/select-operator").uri {}) =
      .redirect "/registration/select-operator/received/request-access/4\n2?title=Alpha"
        .temporaryRedirect ∧
    ((registrationFor (Profile.waitingFor "4\n2" "Alpha")).reply {} ⟨1⟩
        (bareRequest "/registration/select-operator") {}).status = .internalServerError ∧
    ((registrationFor (Profile.waitingFor "4\n2" "Alpha")).reply {} ⟨1⟩
        (bareRequest "/registration/select-operator") {}).headers.getAll "location" = [] := by
  refine ⟨?_, ?_, ?_⟩ <;> decide +kernel

end Service
end Gateway
end Gatehouse
