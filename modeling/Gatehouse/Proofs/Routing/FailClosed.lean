import Gatehouse.Proofs.Path.Joining
import Gatehouse.Proofs.Registration.Replies
import Gatehouse.Proofs.Routing.Home
import Gatehouse.Proofs.Routing.Outcome
import Gatehouse.Proofs.Url.Forms
import Gatehouse.Registration.Records

/-!
# The rules fail closed

A protected page is shown to an industry user only if the records say so.  This file goes through
everything that the calls for the records can come to, and says for each rule set when the user goes
on, and where the user is sent otherwise.

* `RuleCheck.objectionTo` — where a reply sends a user; `decision_of_reply` — the chain does that.
* `OperationsSettled`, `SelectOperatorSettled` — what each rule set makes of the replies, written
  out without the rule sets.
* `settled_by_replies` — the chain decides so, for every backend.
-/

set_option autoImplicit false

namespace Gatehouse
namespace Routing

open Registration (Reply)

/-! ## What a reply leads to -/

namespace RuleCheck

variable {check : RuleCheck} {userId : String} {trace : Trace}

/-- Where a caller is sent because of what the call for the records came to, if anywhere. -/
def objectionTo (check : RuleCheck) : Reply → Option String
  | .record facts => check.destination? (check.rules.decide (some facts))
  | .noRecord => check.destination? (check.rules.decide none)
  | .failure _ | .silence => some check.appRoot

/-- The records are judged by the reply that the fetch ended with. -/
theorem objection?_eq_objectionTo {reply : Reply}
    (h : ((Registration.fetch check.backend userId check.rules.sources
      (some check.timeout)).run trace).1 = reply.result?) :
    check.objection? ((check.facts userId).run trace).1 = check.objectionTo reply := by
  rw [facts, StateT.run_bind]
  rcases hfetch : (Registration.fetch check.backend userId check.rules.sources
    (some check.timeout)).run trace with ⟨found, after⟩
  rw [hfetch] at h
  obtain rfl : found = reply.result? := h
  cases reply with
  | record | noRecord | failure | silence => rfl

/-- For a base in normal form the root of the application is the base. -/
theorem appRoot_eq (h : Path.IsNormal check.basePath.toList) : check.appRoot = check.basePath := by
  show String.ofList (Path.join check.basePath.toList []) = check.basePath
  rw [h.join_nil, String.ofList_toList]

theorem location_root (h : Path.IsNormal check.basePath.toList) :
    check.location "/" none = check.basePath :=
  appRoot_eq h

end RuleCheck

namespace Profile

variable {profile : Profile} {resolver : Session.Resolver} {backend : Registration.Backend}
  {now : Nat} {request : Request} {id : RequestId} {trace : Trace} {rules : Rule.RuleSet}
  {claims : Claims} {reply : Reply}

theorem admission_isRedirect (profile : Profile) (resolver : Session.Resolver) (request : Request)
    (claims : Claims) : (profile.admission resolver request claims).isRedirect = false := by
  unfold admission
  split <;> rfl

/-- **What is decided about an industry user on a protected page** follows from the reply. -/
theorem decision_of_reply (hrules : profile.rules = some rules)
    (hclaims : resolver now request = .ok claims) (hindustry : claims.isIndustry = true)
    (hexempt : (profile.gate resolver).isExempt request = false)
    (hprotected : rules.protects ((profile.ruleCheck backend rules).appPath request) = true)
    (hreply : ((Registration.fetch backend claims.userId rules.sources
      (some profile.ruleTimeout)).run trace).1 = reply.result?) :
    (profile.chain resolver backend now).decision id trace request =
      sentOr ((profile.ruleCheck backend rules).objectionTo reply)
        (profile.admission resolver request claims) := by
  let check := profile.ruleCheck backend rules
  have hconcerned : check.concerned? request (some claims) = some claims := by
    rw [RuleCheck.concerned?_some, hindustry, Bool.true_and]
    exact if_pos hprotected
  have hobjection : check.objection? ((check.facts claims.userId).run trace).1 =
      check.objectionTo reply := RuleCheck.objection?_eq_objectionTo hreply
  have hverdict : (profile.verdict backend request (some claims) trace).1 =
      check.objectionTo reply := by
    rw [verdict_of_rules hrules, RuleCheck.verdict_of_concerned hconcerned, hobjection]
  rw [decision_eq_outcome, outcome_of_known hexempt hclaims, hverdict]

/-! ## What the rule sets make of it -/

/-- The base as it stands in front of a page: nothing if it is the root. -/
def mount (profile : Profile) : String :=
  if profile.basePath = "/" then "" else profile.basePath

theorem toList_mount (h : Path.IsNormal profile.basePath.toList) :
    profile.mount.toList = (Path.segments profile.basePath.toList).flatMap ('/' :: ·) := by
  unfold mount
  split
  · next hroot =>
    rw [hroot]
    rfl
  · next hroot =>
    refine h.eq_flatMap fun hnone => hroot ?_
    exact String.toList_inj.1 (h.eq_root hnone)

/-- What the rules about operations make of the reply about the current record: the user goes on
just if the operator may be worked on, and is else sent to the root of the application. -/
structure OperationsSettled (profile : Profile) (current : Reply) (decision : Decision) : Prop where
  goesOn_iff : decision.isRedirect = false ↔
    ∃ facts, current = .record facts ∧
      (facts.operator = .pending ∨ facts.operator = .approved)
  sentAway : decision.isRedirect = true →
    decision = .redirect profile.basePath .temporaryRedirect

/-- What the rules about selecting an operator make of the replies about the two records. -/
structure SelectOperatorSettled (profile : Profile) (current pending : Reply)
    (decision : Decision) : Prop where
  /-- The user goes on without a record, or with one that was declined for an operator that is no
  draft. -/
  goesOn_iff : decision.isRedirect = false ↔
    (current = .noRecord ∧ pending = .noRecord) ∨
      ∃ facts, current.orElse pending = .record facts ∧ facts.access = .declined ∧
        facts.operator ≠ .draft
  approved : ∀ facts, current.orElse pending = .record facts → facts.access = .approved →
    decision = .redirect (profile.mount ++ "/my-operator") .temporaryRedirect
  waiting : ∀ facts, current.orElse pending = .record facts → facts.access ≠ .approved →
    facts.access = .pending ∨ facts.operator = .draft →
      ∃ tail, decision = .redirect (profile.mount ++ "/select-operator/received/request-access" ++
          tail ++ "?" ++ Url.Form.render [("title", facts.legalName)]) .temporaryRedirect ∧
        Path.segments tail.toList = Path.segments facts.operatorId.toList ∧
        Path.atBoundary tail.toList = true
  unknown : (∃ error, current.orElse pending = .failure error) ∨
      current.orElse pending = .silence →
    decision = .redirect profile.basePath .temporaryRedirect

theorem isRedirect_sentOr {sent : Option String} {decision : Decision}
    (h : decision.isRedirect = false) :
    (sentOr sent decision).isRedirect = false ↔ sent = none := by
  cases sent with
  | none => exact iff_of_true h rfl
  | some location => exact iff_of_false Bool.noConfusion (Option.some_ne_none location)

theorem permitsOperations_iff (status : OperatorStatus) :
    status.permitsOperations = true ↔ status = .pending ∨ status = .approved := by
  cases status with
  | draft | pending | approved | declined => decide

/-- The rules about operations object to a record unless the operator may be worked on. -/
theorem objectionTo_operations (hbase : Path.IsNormal profile.basePath.toList) (facts : Facts) :
    (profile.ruleCheck backend Rule.operations).objectionTo (.record facts) =
      if facts.operator.permitsOperations then none else some profile.basePath := by
  show RuleCheck.destination? _
    (if facts.operator.permitsOperations then .proceed else .redirect "/" none) = _
  cases facts.operator.permitsOperations with
  | true => rfl
  | false => exact congrArg some (RuleCheck.location_root hbase)

/-- **The rules about operations are settled** by the reply about the current record. -/
theorem operationsSettled (hbase : Path.IsNormal profile.basePath.toList) (current : Reply)
    {decision : Decision} (hgoes : decision.isRedirect = false) :
    profile.OperationsSettled current
      (sentOr ((profile.ruleCheck backend Rule.operations).objectionTo current) decision) := by
  have hroot : (profile.ruleCheck backend Rule.operations).appRoot = profile.basePath :=
    RuleCheck.appRoot_eq hbase
  have haway : (¬ ∃ facts, current = .record facts ∧
        (facts.operator = .pending ∨ facts.operator = .approved)) →
      profile.OperationsSettled current (sentOr (some profile.basePath) decision) := fun hclosed =>
    ⟨iff_of_false Bool.noConfusion hclosed, fun _ => rfl⟩
  cases current with
  | record facts =>
    rw [objectionTo_operations hbase]
    cases hpermits : facts.operator.permitsOperations with
    | true =>
      refine ⟨iff_of_true hgoes ⟨facts, rfl, (permitsOperations_iff _).1 hpermits⟩, fun h => ?_⟩
      exact absurd (hgoes.symm.trans h) Bool.false_ne_true
    | false =>
      refine haway ?_
      rintro ⟨_, ⟨⟩, hopen⟩
      exact absurd (hpermits.symm.trans ((permitsOperations_iff _).2 hopen)) Bool.false_ne_true
  | noRecord =>
    have hsent : (profile.ruleCheck backend Rule.operations).objectionTo .noRecord =
        some profile.basePath := congrArg some (RuleCheck.location_root hbase)
    rw [hsent]
    exact haway fun ⟨_, h, _⟩ => Reply.noConfusion h
  | failure | silence =>
    rw [RuleCheck.objectionTo, hroot]
    exact haway fun ⟨_, h, _⟩ => Reply.noConfusion h

/-! ### Pages of the application -/

/-- A page of the application stands behind the mount, and what follows the page stands behind
it. -/
theorem exists_locate_append (hbase : Path.IsNormal profile.basePath.toList)
    (backend : Registration.Backend) (rules : Rule.RuleSet) {page : String} (rest : String)
    (hpage : Path.IsNormal page.toList) (hne : Path.segments page.toList ≠ [])
    (hrest : Path.atBoundary rest.toList = true) :
    ∃ tail, (profile.ruleCheck backend rules).locate (page ++ rest) =
        profile.mount ++ page ++ tail ∧
      Path.segments tail.toList = Path.segments rest.toList ∧
      Path.atBoundary tail.toList = true ∧ (rest = "" → tail = "") := by
  obtain ⟨tail, hjoin, hsegments, hboundary, hnone⟩ :=
    Path.exists_join_append profile.basePath.toList hpage hne hrest
  refine ⟨String.ofList tail, String.toList_inj.1 ?_, ?_, ?_, ?_⟩
  · show (String.ofList (Path.join profile.basePath.toList (page ++ rest).toList)).toList = _
    rw [String.toList_ofList, String.toList_append, hjoin, String.toList_append,
      String.toList_append, String.toList_ofList, toList_mount hbase]
  · rw [String.toList_ofList, hsegments]
  · rw [String.toList_ofList, hboundary]
  · rintro rfl
    rw [hnone rfl]

theorem location_myOperator (hbase : Path.IsNormal profile.basePath.toList) :
    (profile.ruleCheck backend Rule.selectOperator).location "/my-operator" none =
      profile.mount ++ "/my-operator" := by
  obtain ⟨tail, hlocate, -, -, hnone⟩ := exists_locate_append hbase backend Rule.selectOperator ""
    (by decide : Path.IsNormal "/my-operator".toList) (by decide) rfl
  rw [hnone rfl, String.append_empty, String.append_empty] at hlocate
  exact hlocate

theorem exists_location_requestAccess (hbase : Path.IsNormal profile.basePath.toList)
    (facts : Facts) (query : String) :
    ∃ tail, (profile.ruleCheck backend Rule.selectOperator).location
        (Rule.requestAccessPath facts.operatorId) (some query) =
        profile.mount ++ "/select-operator/received/request-access" ++ tail ++ "?" ++ query ∧
      Path.segments tail.toList = Path.segments facts.operatorId.toList ∧
      Path.atBoundary tail.toList = true := by
  have hslash : ("/" ++ facts.operatorId).toList = '/' :: facts.operatorId.toList := by
    rw [String.toList_append]
    rfl
  obtain ⟨tail, hlocate, hsegments, hboundary, -⟩ := exists_locate_append hbase backend
    Rule.selectOperator ("/" ++ facts.operatorId)
    (by decide : Path.IsNormal "/select-operator/received/request-access".toList) (by decide)
    (by rw [hslash]; rfl)
  refine ⟨tail, ?_, ?_, hboundary⟩
  · have hpage : Rule.requestAccessPath facts.operatorId =
        "/select-operator/received/request-access" ++ ("/" ++ facts.operatorId) := by
      rw [← String.append_assoc]
      rfl
    rw [RuleCheck.location, hpage, hlocate]
  · rw [hsegments, hslash, Path.segments_cons_slash]

/-! ### Selecting an operator -/

/-- The rules about selecting an operator object to a record in two ways, and else to none. -/
theorem objectionTo_selectOperator (facts : Facts) :
    (profile.ruleCheck backend Rule.selectOperator).objectionTo (.record facts) =
      if facts.access = .approved then
        some ((profile.ruleCheck backend Rule.selectOperator).location "/my-operator" none)
      else if facts.access = .pending ∨ facts.operator = .draft then
        some ((profile.ruleCheck backend Rule.selectOperator).location
          (Rule.requestAccessPath facts.operatorId)
          (some (Url.Form.render [("title", facts.legalName)])))
      else none := by
  rw [RuleCheck.objectionTo]
  simp only [ruleCheck, Rule.selectOperator]
  split
  · rfl
  · split
    · rw [Rule.Outcome.redirectWith, Url.Form.isEmpty_render]
      rfl
    · rfl

/-- They object to nothing if there is no record, or one that was declined for an operator that is
no draft. -/
theorem objectionTo_selectOperator_eq_none_iff (reply : Reply) :
    (profile.ruleCheck backend Rule.selectOperator).objectionTo reply = none ↔
      reply = .noRecord ∨ ∃ facts, reply = .record facts ∧ facts.access = .declined ∧
        facts.operator ≠ .draft := by
  cases reply with
  | noRecord => exact iff_of_true rfl (Or.inl rfl)
  | failure | silence => simp [RuleCheck.objectionTo]
  | record facts =>
    rw [objectionTo_selectOperator]
    cases haccess : facts.access with
    | approved | pending => simp [haccess]
    | declined => simp [haccess]

/-- **The rules about selecting an operator are settled** by the replies about the two records. -/
theorem selectOperatorSettled (hbase : Path.IsNormal profile.basePath.toList)
    (current pending : Reply) {decision : Decision} (hgoes : decision.isRedirect = false) :
    profile.SelectOperatorSettled current pending
      (sentOr ((profile.ruleCheck backend Rule.selectOperator).objectionTo
        (current.orElse pending)) decision) where
  goesOn_iff := by
    rw [isRedirect_sentOr hgoes, objectionTo_selectOperator_eq_none_iff,
      Reply.orElse_eq_noRecord_iff]
  approved facts hused happroved := by
    rw [hused, objectionTo_selectOperator, if_pos happroved, location_myOperator hbase]
    rfl
  waiting facts hused hother hwaiting := by
    obtain ⟨tail, hlocation, hsegments, hboundary⟩ := exists_location_requestAccess hbase facts
      (Url.Form.render [("title", facts.legalName)])
    refine ⟨tail, ?_, hsegments, hboundary⟩
    rw [hused, objectionTo_selectOperator, if_neg hother, if_pos hwaiting, hlocation]
    rfl
  unknown hunknown := by
    have hroot : (profile.ruleCheck backend Rule.selectOperator).appRoot = profile.basePath :=
      RuleCheck.appRoot_eq hbase
    rcases hunknown with ⟨error, hused⟩ | hused
    · rw [hused, RuleCheck.objectionTo, hroot]
      rfl
    · rw [hused, RuleCheck.objectionTo, hroot]
      rfl

/-! ## The chain -/

/-- **The rules fail closed.**  For an industry user on a protected page that is not exempt, the
decision is settled by what the calls for the records come to, whatever the backend. -/
theorem settled_by_replies (profile : Profile) (backend : Registration.Backend) (id : RequestId)
    (trace : Trace) (request : Request) (hbase : Path.IsNormal profile.basePath.toList)
    (hrules : profile.rules = some rules) (hclaims : resolver now request = .ok claims)
    (hindustry : claims.isIndustry = true)
    (hexempt : (profile.gate resolver).isExempt request = false)
    (hprotected : rules.protects ((profile.ruleCheck backend rules).appPath request) = true) :
    (rules = Rule.operations →
      profile.OperationsSettled
        (backend.currentReply trace.asked claims.userId profile.ruleTimeout)
        ((profile.chain resolver backend now).decision id trace request)) ∧
    (rules = Rule.selectOperator →
      profile.SelectOperatorSettled
        (backend.currentReply trace.asked claims.userId profile.ruleTimeout)
        (backend.pendingReply trace.asked claims.userId profile.ruleTimeout)
        ((profile.chain resolver backend now).decision id trace request)) := by
  have hgoes := profile.admission_isRedirect resolver request claims
  constructor
  · rintro rfl
    have hreply := Registration.fetch_singleton backend claims.userId .current profile.ruleTimeout
      trace
    rw [decision_of_reply hrules hclaims hindustry hexempt hprotected hreply]
    exact operationsSettled hbase _ hgoes
  · rintro rfl
    have hreply := Registration.fetch_current_pending backend claims.userId profile.ruleTimeout
      trace
    rw [decision_of_reply hrules hclaims hindustry hexempt hprotected hreply]
    exact selectOperatorSettled hbase _ _ hgoes

/-- The records of a user who has asked to join an operator.  Either call is in time on its own, but
the two together are not. -/
def slowRecords : Registration.Records where
  pending := [("u", ⟨.approved, "42", .declined, "Alpha Inc."⟩)]
  currentDelay := .milliseconds 3000
  pendingDelay := .milliseconds 6000

/-- The record would let the user go on, but it arrives too late for that. -/
theorem settled_by_replies_slow :
    slowRecords.backend.pendingReply [] "u" (forApp .registration).ruleTimeout = .silence ∧
      ((forApp .registration).chain (Session.fixed (some industryUser)) slowRecords.backend
        0).decision ⟨1⟩ {} (.ofPath "/registration/select-operator" {}) =
          .redirect "/registration" .temporaryRedirect := by
  have hsilence : slowRecords.backend.pendingReply [] "u" (forApp .registration).ruleTimeout =
      .silence := by decide
  have hclaims : Session.fixed (some industryUser) 0 (.ofPath "/registration/select-operator" {}) =
      .ok industryUser := rfl
  have hsettled := (settled_by_replies (forApp .registration) slowRecords.backend ⟨1⟩ {}
    (.ofPath "/registration/select-operator" {}) (by decide) (rfl : _ = some Rule.selectOperator)
    hclaims (by decide) (by decide) (by decide)).2 rfl
  have hused : (slowRecords.backend.currentReply [] "u" (forApp .registration).ruleTimeout).orElse
      (slowRecords.backend.pendingReply [] "u" (forApp .registration).ruleTimeout) = .silence := by
    decide
  exact ⟨hsilence, hsettled.unknown (Or.inr hused)⟩

end Profile
end Routing
end Gatehouse
