import Gatehouse.Proofs.Gateway.Onboarding
import Gatehouse.Proofs.Path.Placing
import Gatehouse.Proofs.Routing.FailClosed
import Gatehouse.Proofs.Rule.Families

/-!
# Where the rules send a caller

The rules send a caller to a page of the same application, so the caller comes back, and the rules
are asked again.  That must not go on for ever.  Two things come together here.  The page that was
meant is one that its own rule set does not protect: the root of the application, the page of the
user's operator, or one of the pages below `select-operator/received`.  And the request that comes
back is for that page: whatever the identifier of the operator is, a question mark in it included,
what stands in front of it stays in front.

* `Rule.Outcome.IsOpen` — the pages that a rule set may send a caller to; `isOpen_of_decide`.
* `RuleCheck.segments_pageOf_location` — the page of the location, seen from the base.
* `Profile.IsSent` — by whom callers are sent away; `isSent_of_redirected`.
* `Profile.not_sent_on` — whoever is sent away by the rules is not sent away from there.
-/

set_option autoImplicit false

namespace Gatehouse

/-! ## Characters of a location -/

namespace Path

variable {base rest : List Char} {c : Char}

/-- Putting a page below a base brings no new characters but slashes. -/
theorem mem_join (h : c ∈ join base rest) : c = '/' ∨ c ∈ base ∨ c ∈ rest := by
  have hbase : c ∈ trimEnd base → c ∈ base := fun hc => (List.rdropWhile_prefix _ base).subset hc
  have hrest : c ∈ trimStart rest → c ∈ rest := fun hc => (List.dropWhile_sublist _).subset hc
  simp only [join] at h
  split at h
  · exact (List.mem_cons.1 h).imp_right fun hc => Or.inr (hrest hc)
  · split at h
    · exact (mem_normalize h).imp_right fun hc => Or.inl (hbase hc)
    · rcases mem_normalize h with hc | hc
      · exact Or.inl hc
      · rcases List.mem_append.1 hc with hc | hc
        · exact Or.inr (Or.inl (hbase hc))
        · exact (List.mem_cons.1 hc).imp_right fun hc => Or.inr (hrest hc)

/-- Putting a page below a base leaves out no character, or only slashes. -/
theorem mem_join_iff (hslash : c ≠ '/') : c ∈ join base rest ↔ c ∈ base ∨ c ∈ rest := by
  refine ⟨fun h => (mem_join h).resolve_left hslash, fun h => ?_⟩
  have hsegment : ∃ s ∈ segments (join base rest), c ∈ s := by
    rw [segments_join]
    rcases h with h | h
    · obtain ⟨s, hs, hc⟩ := exists_segment_of_mem h hslash
      exact ⟨s, List.mem_append_left _ hs, hc⟩
    · obtain ⟨s, hs, hc⟩ := exists_segment_of_mem h hslash
      exact ⟨s, List.mem_append_right _ hs, hc⟩
  obtain ⟨s, hs, hc⟩ := hsegment
  exact Text.mem_of_mem_pieces (List.mem_filter.1 hs).1 hc

/-- What holds of slashes holds of a page below a base just if it holds of both. -/
theorem all_join_iff {p : Char → Bool} (hslash : p '/' = true) (base rest : List Char) :
    (∀ c ∈ join base rest, p c = true) ↔ (∀ c ∈ base, p c = true) ∧ ∀ c ∈ rest, p c = true := by
  have hother : ∀ {c}, p c = false → c ≠ '/' := by
    rintro c hc rfl
    rw [hslash] at hc
    cases hc
  constructor
  · intro h
    constructor <;> intro c hc <;> by_contra hp
    · exact hp (h c ((mem_join_iff (hother (Bool.eq_false_iff.2 hp))).2 (Or.inl hc)))
    · exact hp (h c ((mem_join_iff (hother (Bool.eq_false_iff.2 hp))).2 (Or.inr hc)))
  · rintro ⟨hbase, hrest⟩ c hc
    rcases mem_join hc with rfl | hc | hc
    · exact hslash
    · exact hbase c hc
    · exact hrest c hc

/-- The text of the segments of a base has no new characters but slashes. -/
theorem mem_of_mem_flatMap_segments (h : c ∈ (segments base).flatMap ('/' :: ·)) :
    c = '/' ∨ c ∈ base := by
  by_cases hnone : segments base = []
  · rw [hnone] at h
    cases h
  · rw [← ofSegments_of_ne hnone] at h
    exact mem_normalize h

end Path

namespace Routing

theorem toList_pageOf (location : String) :
    (pageOf location).toList = location.toList.takeWhile fun c => !Http.Uri.endsPath c := by
  rw [pageOf, String.toList_ofList]

/-- A query is not part of the page. -/
theorem pageOf_append_query (page query : String) :
    pageOf (page ++ "?" ++ query) = pageOf page := by
  have hquery : ("?" ++ query).toList.takeWhile (fun c => !Http.Uri.endsPath c) = [] := by
    rw [String.toList_append]
    rfl
  refine String.toList_inj.1 ?_
  rw [toList_pageOf, toList_pageOf, String.append_assoc, String.toList_append,
    List.takeWhile_append, hquery]
  split
  · next hall => rw [List.append_nil, (List.takeWhile_prefix _).eq_of_length hall]
  · rfl

end Routing

/-! ## Open pages -/

namespace Rule

/-- The pages that a rule set sends callers to: the root of the application, or a page without a
query or a fragment of its own, or one below the place where nothing is protected; here the rest is
free. -/
inductive IsOpen (rules : RuleSet) : String → Prop
  /-- A page of the application that is not protected. -/
  | page {page : String} (free : page.toList.any Http.Uri.endsPath = false)
      (unprotected : rules.protects page = false) : IsOpen rules page
  /-- A page below one that is not protected, whatever comes after it. -/
  | below {page : String} (normal : Path.IsNormal page.toList)
      (ne : Path.segments page.toList ≠ []) (free : page.toList.any Http.Uri.endsPath = false)
      (unprotected : ∀ rest : String, Path.segments page.toList <+: Path.segments rest.toList →
        rules.protects rest = false) (rest : String) : IsOpen rules (page ++ "/" ++ rest)

/-- A page whose first two segments are those of the pages about a request is not protected. -/
theorem selectOperator_protects_received {rest : String}
    (h : Path.segments "/select-operator/received/request-access".toList <+:
      Path.segments rest.toList) : selectOperator.protects rest = false := by
  obtain ⟨more, hmore⟩ := h
  simp only [selectOperator, segments, ← hmore]
  rfl

theorem requestAccessPath_eq (operatorId : String) :
    requestAccessPath operatorId =
      "/select-operator/received/request-access" ++ "/" ++ operatorId := by
  have hslash : "/select-operator/received/request-access/" =
      "/select-operator/received/request-access" ++ "/" := by decide +kernel
  exact congrArg (· ++ operatorId) hslash

/-- **A rule set sends callers to open pages.** -/
theorem isOpen_of_decide {rules : RuleSet} {facts : Option Facts} {page : String}
    {query : Option String} (hrules : rules ∈ all)
    (h : rules.decide facts = .redirect page query) : IsOpen rules page := by
  simp only [all, List.mem_cons, List.not_mem_nil, or_false] at hrules
  rcases hrules with rfl | rfl
  · have hroot : page = "/" := by
      cases facts with
      | none => exact (Outcome.redirect.inj h).1.symm
      | some facts =>
        simp only [operations] at h
        split at h
        · cases h
        · exact (Outcome.redirect.inj h).1.symm
    rw [hroot]
    exact .page (by decide) (by decide)
  · cases facts with
    | none => cases h
    | some facts =>
      simp only [selectOperator] at h
      split at h
      · rw [← (Outcome.redirect.inj h).1]
        exact .page (by decide) (by decide)
      · split at h
        · rw [← (Outcome.redirect.inj h).1, requestAccessPath_eq]
          exact .below (by decide) (by decide) (by decide)
            (fun _ => selectOperator_protects_received) facts.operatorId
        · cases h

/-- The root of the application is open. -/
theorem isOpen_root {rules : RuleSet} (hrules : rules ∈ all) : IsOpen rules "" := by
  refine .page rfl ?_
  simp only [all, List.mem_cons, List.not_mem_nil, or_false] at hrules
  rcases hrules with rfl | rfl <;> rfl

end Rule

/-! ## Locations -/

namespace Routing
namespace RuleCheck

variable {check : RuleCheck} {page : String} {query : Option String}

theorem pageOf_location (check : RuleCheck) (page : String) (query : Option String) :
    pageOf (check.location page query) = pageOf (check.locate page) := by
  cases query with
  | none => rfl
  | some query => exact pageOf_append_query _ _

theorem toList_locate (check : RuleCheck) (page : String) :
    (check.locate page).toList = Path.join check.basePath.toList page.toList := by
  rw [locate, String.toList_ofList]

/-- A page without a query or a fragment is all of its location. -/
theorem segments_pageOf_locate (hbase : check.basePath.toList.any Http.Uri.endsPath = false)
    (hpage : page.toList.any Http.Uri.endsPath = false) :
    Path.segments (pageOf (check.locate page)).toList =
      Path.segments check.basePath.toList ++ Path.segments page.toList := by
  have hfree : (check.locate page).toList.any Http.Uri.endsPath = false := by
    rw [toList_locate, List.any_eq_false]
    intro c hc
    rcases Path.mem_join hc with rfl | hc | hc
    · decide
    · exact List.any_eq_false.1 hbase c hc
    · exact List.any_eq_false.1 hpage c hc
  rw [toList_pageOf_of_free hfree, toList_locate, Path.segments_join]

/-- Whatever comes after a page, the page stays in front. -/
theorem exists_segments_pageOf_locate (hbase : check.basePath.toList.any Http.Uri.endsPath = false)
    (hnormal : Path.IsNormal page.toList) (hne : Path.segments page.toList ≠ [])
    (hpage : page.toList.any Http.Uri.endsPath = false) (rest : String) :
    ∃ more, Path.segments (pageOf (check.locate (page ++ "/" ++ rest))).toList =
      Path.segments check.basePath.toList ++ (Path.segments page.toList ++ more) := by
  let front := (Path.segments check.basePath.toList).flatMap ('/' :: ·) ++ page.toList
  have hrest : Path.atBoundary ("/" ++ rest).toList = true := by
    rw [String.toList_append]
    rfl
  obtain ⟨tail, hjoin, -, htail, -⟩ :=
    Path.exists_join_append check.basePath.toList hnormal hne hrest
  have hfront : ∀ c ∈ front, (!Http.Uri.endsPath c) = true := by
    intro c hc
    rw [Bool.not_eq_true', ← Bool.not_eq_true]
    rcases List.mem_append.1 hc with hc | hc
    · rcases Path.mem_of_mem_flatMap_segments hc with rfl | hc
      · decide
      · exact List.any_eq_false.1 hbase c hc
    · exact List.any_eq_false.1 hpage c hc
  -- the location is cut somewhere behind the page, and what is left of the rest starts with a slash
  let kept := tail.takeWhile fun c => !Http.Uri.endsPath c
  have hkept : Path.atBoundary kept = true := by
    cases htailEq : tail with
    | nil => simp only [kept, htailEq]; rfl
    | cons c cs =>
      rw [htailEq] at htail
      obtain rfl : c = '/' := by simpa [Path.atBoundary] using htail
      simp only [kept, htailEq]
      rfl
  refine ⟨Path.segments kept, ?_⟩
  rw [toList_pageOf, toList_locate, String.append_assoc, String.toList_append, hjoin,
    List.takeWhile_append_of_pos hfront, Path.segments_append_of_atBoundary _ hkept,
    Path.segments_append_of_atBoundary _ hnormal.atBoundary, List.append_assoc,
    Path.segments_flatMap fun _ => Path.of_mem_segments]

/-- **The page of the location, seen from the base, is not protected.** -/
theorem segments_pageOf_location (hbase : check.basePath.toList.any Http.Uri.endsPath = false)
    (hrules : check.rules ∈ Rule.all) (h : Rule.IsOpen check.rules page) (query : Option String) :
    ∃ more, Path.segments (pageOf (check.location page query)).toList =
        Path.segments check.basePath.toList ++ more ∧
      ∀ rest : String, Path.segments rest.toList = more → check.rules.protects rest = false := by
  rw [pageOf_location]
  cases h with
  | page free unprotected =>
    refine ⟨_, segments_pageOf_locate hbase free, fun rest hrest => ?_⟩
    rw [Rule.protects_congr hrules hrest, unprotected]
  | below normal ne free unprotected rest =>
    obtain ⟨more, hmore⟩ := exists_segments_pageOf_locate hbase normal ne free rest
    exact ⟨_, hmore, fun rest hrest => unprotected rest ⟨more, hrest.symm⟩⟩

/-- Wherever the rules send a caller, it is to an open page. -/
theorem exists_location_of_objection {result : Registration.Result} {location : String}
    (hrules : check.rules ∈ Rule.all) (h : check.objection? result = some location) :
    ∃ page query, location = check.location page query ∧ Rule.IsOpen check.rules page := by
  rcases result with error | facts
  · exact ⟨"", none, (Option.some.inj h).symm, Rule.isOpen_root hrules⟩
  · cases hdecide : check.rules.decide facts with
    | proceed =>
      rw [objection?, hdecide] at h
      cases h
    | redirect page query =>
      rw [objection?, hdecide] at h
      exact ⟨page, query, (Option.some.inj h).symm, Rule.isOpen_of_decide hrules hdecide⟩

end RuleCheck

/-! ## Coming back -/

namespace Profile

variable {profile : Profile} {resolver resolver' : Session.Resolver}
  {backend backend' : Registration.Backend} {now now' : Nat} {request next : Request}
  {id id' : RequestId} {trace trace' : Trace} {rules : Rule.RuleSet} {claims claims' : Claims}
  {location : String} {status : Http.Status}

/-- If the decision would not send the caller away, somebody else has, and for now only. -/
theorem eq_of_sentOr {sent : Option String} {decision : Decision}
    (hgoes : decision.isRedirect = false)
    (h : sentOr sent decision = .redirect location status) :
    sent = some location ∧ status = .temporaryRedirect := by
  cases sent with
  | none =>
    rw [show decision = .redirect location status from h] at hgoes
    cases hgoes
  | some sent =>
    obtain ⟨rfl, rfl⟩ := Decision.redirect.inj h
    exact ⟨rfl, rfl⟩

/-- Who is sent away, by whom and where to. -/
inductive IsSent (profile : Profile) (resolver : Session.Resolver) (backend : Registration.Backend)
    (now : Nat) (request : Request) (trace : Trace) (location : String) : Prop
  /-- A caller without a session is sent to the onboarding page. -/
  | unknown {error : SessionError} (hsession : resolver now request = .error error)
      (hpage : location = profile.onboardingPath)
  /-- A known caller is sent where the rules say. -/
  | known {claims : Claims} (hclaims : resolver now request = .ok claims)
      (hverdict : (profile.verdict backend request (some claims) trace).1 = some location)

/-- **Everybody who is sent away is sent by one of the two,** and always with the same status. -/
theorem isSent_of_redirected
    (h : (profile.chain resolver backend now).decision id trace request =
      .redirect location status) :
    status = .temporaryRedirect ∧
      profile.IsSent resolver backend now request trace location := by
  cases hsession : resolver now request with
  | error error =>
    rw [decision_of_unknown hsession] at h
    split at h
    · cases h
    · obtain ⟨rfl, rfl⟩ := Decision.redirect.inj h
      exact ⟨rfl, .unknown hsession rfl⟩
  | ok claims =>
    have hexempt := not_exempt_of_redirected (congrArg Decision.isRedirect h)
    rw [decision_eq_outcome, outcome_of_known hexempt hsession] at h
    obtain ⟨hverdict, hstatus⟩ :=
      eq_of_sentOr (profile.admission_isRedirect resolver request claims) h
    exact ⟨hstatus, .known hsession hverdict⟩

/-- All redirects have the same status. -/
theorem status_of_redirected
    (h : (profile.chain resolver backend now).decision id trace request =
      .redirect location status) : status = .temporaryRedirect :=
  (isSent_of_redirected h).1

theorem verdict_of_redirected (hclaims : resolver now request = .ok claims)
    (h : (profile.chain resolver backend now).decision id trace request =
      .redirect location status) :
    (profile.verdict backend request (some claims) trace).1 = some location := by
  cases (isSent_of_redirected h).2 with
  | unknown hsession => cases hsession.symm.trans hclaims
  | known hknown hverdict =>
    obtain rfl := Except.ok.inj (hclaims.symm.trans hknown)
    exact hverdict

/-- A known caller who is sent away is sent by the rules, because of its records. -/
theorem objection_of_redirected (hrules : profile.rules = some rules)
    (hclaims : resolver now request = .ok claims)
    (hsent : (profile.chain resolver backend now).decision id trace request =
      .redirect location status) :
    (profile.ruleCheck backend rules).objection?
      (((profile.ruleCheck backend rules).facts claims.userId).run trace).1 = some location := by
  have hverdict := verdict_of_redirected hclaims hsent
  rw [verdict_of_rules hrules] at hverdict
  cases hconcerned : (profile.ruleCheck backend rules).concerned? request (some claims) with
  | none =>
    rw [RuleCheck.verdict_of_unconcerned hconcerned] at hverdict
    cases hverdict
  | some concerned =>
    obtain rfl : claims = concerned := by
      rw [RuleCheck.concerned?_some] at hconcerned
      split at hconcerned
      · exact Option.some.inj hconcerned
      · cases hconcerned
    rwa [RuleCheck.verdict_of_concerned hconcerned] at hverdict

theorem exists_objection_of_redirected (hrules : profile.rules = some rules)
    (hclaims : resolver now request = .ok claims)
    (hsent : (profile.chain resolver backend now).decision id trace request =
      .redirect location status) :
    ∃ result, (profile.ruleCheck backend rules).objection? result = some location :=
  ⟨_, objection_of_redirected hrules hclaims hsent⟩

/-- Nobody who is known is sent away from a page that is not protected. -/
theorem not_redirected_of_unprotected (hrules : profile.rules = some rules)
    (hclaims : resolver now request = .ok claims)
    (h : rules.protects ((profile.ruleCheck backend rules).appPath request) = false) :
    ((profile.chain resolver backend now).decision id trace request).isRedirect = false := by
  rw [decision_eq_outcome]
  cases hexempt : (profile.gate resolver).isExempt request with
  | true =>
    rw [outcome_of_exempt hexempt]
    rfl
  | false =>
    have hconcerned :
        (profile.ruleCheck backend rules).concerned? request (some claims) = none := by
      rw [RuleCheck.concerned?_some]
      show (if claims.isIndustry && rules.protects _ then some claims else none) = none
      rw [h, Bool.and_false, if_neg Bool.false_ne_true]
    rw [outcome_of_known hexempt hclaims, verdict_of_rules hrules,
      RuleCheck.verdict_of_unconcerned hconcerned]
    exact profile.admission_isRedirect resolver request claims

/-- **Whoever is sent away by the rules is not sent away from there.**  The page of the location is
one that the rules do not protect, so the caller gets in whatever the records are by then. -/
theorem not_sent_on (hbase : Path.IsBase profile.basePath.toList)
    (hfree : profile.basePath.toList.any Http.Uri.endsPath = false)
    (hrules : profile.rules = some rules) (hall : rules ∈ Rule.all)
    (hclaims : resolver now request = .ok claims)
    (hsent : (profile.chain resolver backend now).decision id trace request =
      .redirect location status)
    (hclaims' : resolver' now' next = .ok claims')
    (hpath : next.path = Request.normalized (pageOf location)) :
    ((profile.chain resolver' backend' now').decision id' trace' next).isRedirect = false := by
  obtain ⟨result, hobjection⟩ := exists_objection_of_redirected hrules hclaims hsent
  obtain ⟨page, query, rfl, hopen⟩ := RuleCheck.exists_location_of_objection hall hobjection
  obtain ⟨more, hmore, hunprotected⟩ := RuleCheck.segments_pageOf_location hfree hall hopen query
  have hnormal : Path.IsNormal next.path.toList := by
    rw [hpath, Request.normalized, String.toList_ofList]
    exact Path.isNormal_normalize _
  have hsegments :
      Path.segments next.path.toList = Path.segments profile.basePath.toList ++ more := by
    rw [hpath, Request.normalized, String.toList_ofList, Path.segments_normalize]
    exact hmore
  refine not_redirected_of_unprotected hrules hclaims' (hunprotected _ ?_)
  rw [RuleCheck.appPath, String.toList_ofList]
  show Path.segments (Path.stripBase profile.basePath.toList next.path.toList) = more
  rw [Path.segments_stripBase hbase hnormal, hsegments, Path.below_append]

/-- An application that is mounted at a path which is spelled like a protected page. -/
def mountedAtPage : Profile :=
  { forApp .registration with basePath := "/select-operator/" }

/-- The records of a user who waits for an operator with a question mark in its identifier. -/
def waitingRecords : Registration.Records where
  current := [("u", ⟨.pending, "7?x/select-operator", .approved, "Alpha"⟩)]

/-- The identifier cuts the page short, and the caller gets in all the same. -/
theorem not_sent_on_waiting :
    (mountedAtPage.chain (Session.fixed (some industryUser)) waitingRecords.backend 0).decision
        ⟨1⟩ {} (.ofPath "/select-operator/select-operator" {}) =
      .redirect ("/select-operator/select-operator/received/request-access/" ++
        "7?x/select-operator?title=Alpha") .temporaryRedirect ∧
      ((mountedAtPage.chain (Session.fixed (some industryUser)) waitingRecords.backend 1).decision
        ⟨2⟩ {} (.ofPath "/select-operator/select-operator/received/request-access/7"
          {})).isRedirect = false := by
  have hclaims : ∀ now request,
      Session.fixed (some industryUser) now request = .ok industryUser := fun _ _ => rfl
  have hsent : (mountedAtPage.chain (Session.fixed (some industryUser)) waitingRecords.backend
      0).decision ⟨1⟩ {} (.ofPath "/select-operator/select-operator" {}) =
      .redirect ("/select-operator/select-operator/received/request-access/" ++
        "7?x/select-operator?title=Alpha") .temporaryRedirect := by decide +kernel
  have hfree : mountedAtPage.basePath.toList.any Http.Uri.endsPath = false := by decide
  exact ⟨hsent, not_sent_on (by decide) hfree (rfl : _ = some Rule.selectOperator)
    (by simp [Rule.all]) (hclaims _ _) hsent (hclaims _ _) (by decide +kernel)⟩

end Profile
end Routing
end Gatehouse
