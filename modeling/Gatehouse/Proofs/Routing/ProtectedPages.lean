import Gatehouse.Proofs.Routing.Outcome
import Gatehouse.Proofs.Rule.Families
import Gatehouse.Registration.Records

/-!
# Protected pages

The rules are asked about the path of a request below the base, but what the caller is shown is the
page below the base and the namespace.  A request may name the namespace itself, and then the two
differ.

* `passed_iff` — a protected page is shown after the rules have been checked, with one exception:
  the rules about selecting an operator are not asked if the request names the namespace.
* `shown_unchecked` — an input where this happens.
-/

set_option autoImplicit false

namespace Gatehouse
namespace Routing

variable {request : Request}

/-! ## Checks that were passed -/

namespace RuleCheck

variable {check : RuleCheck} {userId : String} {before after : Trace}

/-- Between two traces the records of a user were fetched, and the rules let the user go on. -/
def Passed (check : RuleCheck) (userId : String) (before after : Trace) : Prop :=
  ∃ facts fetched, (check.facts userId).run before = (.ok facts, fetched) ∧
    check.rules.decide facts = .proceed ∧ fetched.Alike after

/-- Whoever has records, or is known to have none, was asked about. -/
theorem facts_answered {facts : Option Facts} {e : Registration.Endpoint}
    {more : List Registration.Endpoint} (hsources : check.rules.sources = e :: more)
    (h : (check.facts userId).run before = (.ok facts, after)) :
    ∃ calls, after.answered = before.answered ++ ⟨e, userId⟩ :: calls := by
  rcases hfetch : (Registration.fetch check.backend userId check.rules.sources
    (some check.timeout)).run before with ⟨found, t⟩
  rw [RuleCheck.facts, StateT.run_bind, hfetch] at h
  cases found with
  | none => cases h
  | some result =>
    cases h
    rw [hsources] at hfetch
    exact Registration.fetch_answered hfetch

/-- If nothing was done in between, nothing was fetched. -/
theorem not_passed_of_alike {e : Registration.Endpoint} {more : List Registration.Endpoint}
    (hsources : check.rules.sources = e :: more) (h : before.Alike after) :
    ¬ check.Passed userId before after := by
  rintro ⟨facts, fetched, hrun, -, halike⟩
  obtain ⟨calls, hcalls⟩ := facts_answered hsources hrun
  rw [halike.answered, ← h.answered] at hcalls
  exact absurd (List.self_eq_append_right.1 hcalls) (List.cons_ne_nil _ _)

/-- A caller who is concerned and has nothing to object to has passed. -/
theorem passed_of_concerned {claims : Claims} {caller : Option Claims}
    (hconcerned : check.concerned? request caller = some claims)
    (hverdict : (check.verdict request caller before).1 = none)
    (halike : (check.verdict request caller before).2.Alike after) :
    check.Passed claims.userId before after := by
  rw [verdict_of_concerned hconcerned] at hverdict halike
  obtain ⟨facts, hfacts, hproceed⟩ := (check.objection?_eq_none_iff _).1 hverdict
  exact ⟨facts, _, Prod.ext hfacts rfl, hproceed, halike⟩

end RuleCheck

/-! ## What is shown -/

namespace Profile

variable {profile : Profile} {resolver : Session.Resolver} {backend : Registration.Backend}
  {now : Nat} {id : RequestId} {trace : Trace} {rules : Rule.RuleSet} {claims : Claims}
  {served : String}

/-- The page that a caller is shown under a path of the page server: what is below the caller's
home. -/
def page (profile : Profile) (claims : Claims) (served : String) : String :=
  String.ofList (Path.ofSegments ((Path.segments served.toList).drop (profile.home claims).length))

/-- The page that is shown, and what the rules are asked about. -/
theorem segments_page (profile : Profile) (resolver : Session.Resolver)
    (backend : Registration.Backend) (rules : Rule.RuleSet) (claims : Claims)
    (hpath : Path.IsNormal request.path.toList) :
    Path.segments ((profile.ruleCheck backend rules).appPath request).toList =
      (if profile.namesNamespace claims request then Path.segments claims.namespacePath.toList
        else []) ++
        Path.segments (profile.page claims
          ((profile.gate resolver).servedPath claims request)).toList := by
  obtain ⟨part, hserved, hrest⟩ := profile.segments_servedPath resolver claims hpath
  have hpart : ∀ s ∈ part, s ≠ [] ∧ '/' ∉ s := by
    intro s hs
    have hmem := List.mem_append_right
      (if profile.namesNamespace claims request then Path.segments claims.namespacePath.toList
        else []) hs
    rw [← hrest] at hmem
    exact Path.of_mem_segments hmem
  rw [page, hserved, List.drop_left, String.toList_ofList, Path.segments_ofSegments hpart,
    RuleCheck.appPath, String.toList_ofList]
  exact hrest

/-- A page about operations is protected however it is asked for, and a page for selecting an
operator unless the request names the namespace. -/
theorem protects_appPath (resolver : Session.Resolver) (backend : Registration.Backend)
    (hall : rules ∈ Rule.all) (hpath : Path.IsNormal request.path.toList)
    (hprotected : rules.protects
      (profile.page claims ((profile.gate resolver).servedPath claims request)) = true) :
    rules.protects ((profile.ruleCheck backend rules).appPath request) = true ↔
      ¬ (rules = Rule.selectOperator ∧ profile.namesNamespace claims request = true) := by
  have hsegments := profile.segments_page resolver backend rules claims hpath
  cases hnames : profile.namesNamespace claims request with
  | false =>
    rw [hnames, if_neg Bool.false_ne_true, List.nil_append] at hsegments
    rw [Rule.protects_congr hall hsegments, hprotected]
    simp
  | true =>
    rw [hnames, if_pos rfl] at hsegments
    simp only [Rule.all, List.mem_cons, List.not_mem_nil, or_false] at hall
    rcases hall with rfl | rfl
    · rw [Rule.operations_protects_append hsegments hprotected]
      simp [Rule.operations_ne_selectOperator]
    · rw [Rule.selectOperator_protects_namespace claims.role hsegments]
      simp

/-- **A protected page is shown to an industry user after the rules were checked,** unless it is one
for selecting an operator and the request names the namespace; then they were not. -/
theorem passed_iff
    (hserved : (profile.chain resolver backend now).decision id trace request = .serve served)
    (hrules : profile.rules = some rules) (hall : rules ∈ Rule.all)
    (hpath : Path.IsNormal request.path.toList) (hclaims : resolver now request = .ok claims)
    (hindustry : claims.isIndustry = true)
    (hprotected : rules.protects (profile.page claims served) = true) :
    (profile.ruleCheck backend rules).Passed claims.userId trace
        ((profile.chain resolver backend now).start id trace request).2.trace ↔
      ¬ (rules = Rule.selectOperator ∧ profile.namesNamespace claims request = true) := by
  rw [decision_eq_outcome] at hserved
  obtain ⟨hverdict, hafter, rfl⟩ := outcome_serve hclaims hserved
  have halike := (profile.yields_outcome resolver backend now request id trace).trace
  rw [hafter] at halike
  simp only [verdict, hrules] at hverdict halike
  rw [← protects_appPath resolver backend hall hpath hprotected]
  have hconcerned := (profile.ruleCheck backend rules).concerned?_some request claims
  rw [hindustry, Bool.true_and] at hconcerned
  cases hprotects : rules.protects ((profile.ruleCheck backend rules).appPath request) with
  | true =>
    rw [show (profile.ruleCheck backend rules).rules = rules from rfl, hprotects, if_pos rfl]
      at hconcerned
    exact iff_of_true (RuleCheck.passed_of_concerned hconcerned hverdict halike) rfl
  | false =>
    rw [show (profile.ruleCheck backend rules).rules = rules from rfl, hprotects,
      if_neg Bool.false_ne_true] at hconcerned
    rw [RuleCheck.verdict_of_unconcerned hconcerned] at halike
    obtain ⟨more, hsources⟩ := Rule.exists_sources hall
    exact iff_of_false (RuleCheck.not_passed_of_alike hsources halike) Bool.false_ne_true

/-- The chain of the application for registration, with one caller. -/
def userChain (records : Registration.Records) : Chain :=
  (forApp .registration).chain (Session.fixed (some industryUser)) records.backend 0

/-- Whoever asks for the page below the base and has no operator is shown it after a fetch. -/
theorem passed_iff_below_base :
    (userChain {}).decision ⟨1⟩ {} (.ofPath "/registration/select-operator" {}) =
        .serve "/registration/bceidbusiness/industry_user/select-operator" ∧
      ((forApp .registration).ruleCheck (Registration.Records.backend {})
        Rule.selectOperator).Passed "u" {}
          ((userChain {}).start ⟨1⟩ {} (.ofPath "/registration/select-operator" {})).2.trace := by
  have hserved : (userChain {}).decision ⟨1⟩ {} (.ofPath "/registration/select-operator" {}) =
      .serve "/registration/bceidbusiness/industry_user/select-operator" := by decide
  have hclaims : Session.fixed (some industryUser) 0 (.ofPath "/registration/select-operator" {}) =
      .ok industryUser := rfl
  have hpassed := passed_iff hserved (rfl : _ = some Rule.selectOperator) (by simp [Rule.all])
    (Request.isNormal_ofPath _ _) hclaims (by decide) (by decide)
  exact ⟨hserved, hpassed.2 fun h => absurd h.2 (by decide)⟩

/-- The records of a user who belongs to an operator. -/
def memberRecords : Registration.Records where
  current := [("u", ⟨.approved, "42", .approved, "Alpha Inc."⟩)]

/-- A user who belongs to an operator is kept away from selecting one, but is shown the page when
asking for it with the namespace, and then the backend is asked nothing. -/
theorem shown_unchecked :
    (userChain memberRecords).decision ⟨1⟩ {} (.ofPath "/registration/select-operator" {}) =
        .redirect "/registration/my-operator" .temporaryRedirect ∧
      (userChain memberRecords).decision ⟨1⟩ {}
        (.ofPath "/registration/bceidbusiness/industry_user/select-operator" {}) =
          .serve "/registration/bceidbusiness/industry_user/select-operator" ∧
      Rule.selectOperator.protects ((forApp .registration).page industryUser
        "/registration/bceidbusiness/industry_user/select-operator") = true ∧
      ((userChain memberRecords).start ⟨1⟩ {}
        (.ofPath "/registration/bceidbusiness/industry_user/select-operator" {})).2.trace.asked =
          [] := by
  exact ⟨by decide, by decide, by decide, by decide⟩

end Profile
end Routing
end Gatehouse
