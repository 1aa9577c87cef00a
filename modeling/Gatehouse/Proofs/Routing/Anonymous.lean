import Gatehouse.Proofs.Routing.Home
import Gatehouse.Proofs.Routing.Outcome
import Gatehouse.Registration.Records

/-!
# Callers without a session

What the gate asks of a path it asks of everybody, so a caller without a session is treated by the
path alone: an exempt page passes, a page on the allow list passes, and for all others the caller is
sent to sign in.

It does not follow that whoever is sent away with a session is sent away without one.  The allow
list is about the last segment of a path and the rules are about others, so a page can be on the
list and be protected; and the rules are not asked about callers who are not known.

* `decision_of_unknown` — the decision for a caller without a session.
* `redirected_without_session` — a caller whom an application sends away is sent to sign in when the
  session is dropped, and passes if the page is on the allow list, whatever the records are then.
* `passes_below_operations` — an input where the second happens.
-/

set_option autoImplicit false

namespace Gatehouse
namespace Routing

/-! ## The gate looks at paths -/

namespace Gate

variable {gate : Gate} {request bare : Request}

theorem isExempt_congr (h : bare.path = request.path) :
    gate.isExempt bare = gate.isExempt request := by
  rw [isExempt, isExempt, h]

theorem isAllowListed_congr (h : bare.path = request.path) :
    gate.isAllowListed bare = gate.isAllowListed request := by
  rw [isAllowListed, isAllowListed, Request.finalSegment?, Request.finalSegment?, h]

end Gate

/-! ## Decisions -/

namespace Profile

variable {profile : Profile} {resolver : Session.Resolver} {backend : Registration.Backend}
  {now : Nat} {request : Request} {id : RequestId} {trace : Trace}

/-- The decision for a caller without a session is made by the path. -/
theorem decision_of_unknown {error : SessionError} (herror : resolver now request = .error error) :
    (profile.chain resolver backend now).decision id trace request =
      if (profile.gate resolver).isExempt request || (profile.gate resolver).isAllowListed request
        then .passThrough
      else .redirect profile.onboardingPath .temporaryRedirect := by
  rw [decision_eq_outcome]
  cases hexempt : (profile.gate resolver).isExempt request with
  | true => rw [outcome_of_exempt hexempt, Bool.true_or, if_pos rfl]
  | false =>
    rw [outcome_of_unknown hexempt herror, Bool.false_or]
    split <;> rfl

/-- Nobody is sent away from an exempt page. -/
theorem not_exempt_of_redirected
    (h : ((profile.chain resolver backend now).decision id trace request).isRedirect = true) :
    (profile.gate resolver).isExempt request = false := by
  rw [decision_eq_outcome] at h
  cases hexempt : (profile.gate resolver).isExempt request with
  | false => rfl
  | true =>
    rw [outcome_of_exempt hexempt] at h
    cases h

/-- On the allow list of each of the three applications stands one word. -/
theorem isAllowListed_forApp (app : App) (basePath : String) (request : Request) :
    ({ forApp app with basePath }.gate resolver).isAllowListed request =
      (request.finalSegment? == some "profile") := by
  unfold Gate.isAllowListed
  cases request.finalSegment? with
  | none => rfl
  | some segment =>
    show ["profile"].contains segment = (some segment == some "profile")
    rw [List.contains_cons, List.contains_nil, Bool.or_false, Option.some_beq_some]

/-- **Who is sent away, is sent to sign in when the session is dropped,** unless the page is on the
allow list; then the page server is asked for it.  The records may have changed in between. -/
theorem redirected_without_session (app : App) (basePath : String) (backend' : Registration.Backend)
    (now' : Nat) (id' : RequestId) (trace' : Trace) {bare : Request} {error : SessionError}
    (hsent : (({ forApp app with basePath }.chain resolver backend now).decision id trace
      request).isRedirect = true)
    (hpath : bare.path = request.path) (herror : resolver now' bare = .error error) :
    ({ forApp app with basePath }.chain resolver backend' now').decision id' trace' bare =
      if bare.finalSegment? = some "profile" then .passThrough
      else .redirect "/onboarding" .temporaryRedirect := by
  rw [decision_of_unknown herror, Gate.isExempt_congr hpath, not_exempt_of_redirected hsent,
    isAllowListed_forApp, Bool.false_or]
  simp only [beq_iff_eq]
  rfl

/-- Knows everybody who sends an `authorization` field as one industry user. -/
def bearerOnly : Session.Resolver := fun _ request =>
  if request.headers.contains "authorization" then .ok industryUser
  else .error .absent

/-- A field that `bearerOnly` knows. -/
def bearerField : Headers := Headers.empty.insert "authorization" (Text.bytes "Bearer t")

theorem redirected_without_session_below_operations :
    (({ forApp .administration with basePath := "/portal" }.chain bearerOnly
          (Registration.Records.backend {}) 0).decision ⟨1⟩ {}
        (.ofPath "/portal/operations/7" bearerField)).isRedirect = true ∧
      ({ forApp .administration with basePath := "/portal" }.chain bearerOnly
          (Registration.Records.backend {}) 0).decision ⟨1⟩ {}
        (.ofPath "/portal/operations/7" {}) = .redirect "/onboarding" .temporaryRedirect := by
  have hsent : (({ forApp .administration with basePath := "/portal" }.chain bearerOnly
          (Registration.Records.backend {}) 0).decision ⟨1⟩ {}
        (.ofPath "/portal/operations/7" bearerField)).isRedirect = true := by decide
  have hanonymous := redirected_without_session .administration "/portal"
    (Registration.Records.backend {}) 0 ⟨1⟩ {}
    hsent (rfl : (Request.ofPath "/portal/operations/7" {}).path = _)
    (rfl : bearerOnly 0 (.ofPath "/portal/operations/7" {}) = .error .absent)
  rw [if_neg (by decide)] at hanonymous
  exact ⟨hsent, hanonymous⟩

/-- Below the operations a page on the allow list is closed to a user whose operator may not be
worked on, and open to those who send no session. -/
theorem passes_below_operations :
    ((forApp .administration).chain bearerOnly (Registration.Records.backend {}) 0).decision ⟨1⟩ {}
        (.ofPath "/administration/operations/profile" bearerField) =
          .redirect "/administration" .temporaryRedirect ∧
      ((forApp .administration).chain bearerOnly (Registration.Records.backend {}) 0).decision
        ⟨1⟩ {} (.ofPath "/administration/operations/profile" {}) = .passThrough := by
  decide

end Profile
end Routing
end Gatehouse
