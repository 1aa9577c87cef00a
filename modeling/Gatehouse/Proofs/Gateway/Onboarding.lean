import Gatehouse.Config.Validation
import Gatehouse.Proofs.Gateway.Wire
import Gatehouse.Proofs.Path.Trimming
import Gatehouse.Proofs.Routing.Anonymous

/-!
# Where callers without a session are sent

The gate sends callers without a session to the location that is configured for it, and lets
everybody through to that page.  But what it compares with the path of a request, which is in normal
form, is the location as it was written; and a configuration is accepted with any location that
starts with a slash.

* `isOnboarding_pageOf_iff` — when the page of the location is the page that the gate lets callers
  through to.
* `arrives_iff` — when a caller who follows the redirect arrives; all others are sent there again.
* `sent_round` — a location that is accepted, and to which callers are sent again and again.
-/

set_option autoImplicit false

namespace Gatehouse
namespace Routing

/-- The page that a location names: its path, without the query and the fragment. -/
def pageOf (location : String) : String :=
  String.ofList (location.toList.takeWhile fun c => !Http.Uri.endsPath c)

/-- Whether a location is written as the path of a page is, up to slashes at its end: it is in
normal form and not the root, and has neither a query nor a fragment. -/
def IsPage (location : String) : Prop :=
  Path.IsNormal (Path.trimEnd location.toList) ∧ location.toList.any Http.Uri.endsPath = false

theorem toList_pageOf_of_free {location : String}
    (h : location.toList.any Http.Uri.endsPath = false) :
    (pageOf location).toList = location.toList := by
  rw [pageOf, String.toList_ofList, List.takeWhile_eq_self_iff]
  intro c hc
  rw [Bool.not_eq_true']
  exact Bool.eq_false_iff.2 (List.any_eq_false.1 h c hc)

/-! ## The gate -/

namespace Gate

variable {gate : Gate} {page path : List Char}

theorem exists_append_of_isAtOrBelow (h : isAtOrBelow page path = true) :
    ∃ rest, path = page ++ rest ∧ Path.atBoundary rest = true := by
  unfold isAtOrBelow at h
  split at h
  · next rest hrest => exact ⟨rest, Path.eq_append_of_afterStart? hrest, h⟩
  · cases h

theorem isAtOrBelow_self (page : List Char) : isAtOrBelow page page = true := by
  rw [isAtOrBelow, Path.afterStart?_self]
  rfl

/-- A path is where people sign in if it is at that page or below it; if they sign in at the root,
no path is. -/
theorem isOnboarding_iff_isAtOrBelow : gate.isOnboarding path = true ↔
    Path.segments gate.onboardingPath.toList ≠ [] ∧
      isAtOrBelow (Path.trimEnd gate.onboardingPath.toList) path = true := by
  rw [isOnboarding, Bool.and_eq_true, Bool.not_eq_true', List.isEmpty_eq_false_iff, ne_eq,
    Path.trimEnd_eq_nil_iff]

/-- A path in normal form with the segments of a page is at or below it just if it is the page. -/
theorem isAtOrBelow_normalize_iff (hpage : Path.segments page ≠ []) :
    isAtOrBelow page (Path.normalize page) = true ↔ Path.IsNormal page := by
  constructor
  · intro h
    obtain ⟨rest, hsplit, hboundary⟩ := exists_append_of_isAtOrBelow h
    have hnormal : Path.IsNormal (page ++ rest) := hsplit ▸ Path.isNormal_normalize page
    have hsegments := congrArg Path.segments hsplit
    rw [Path.segments_normalize, Path.segments_append_of_atBoundary page hboundary] at hsegments
    obtain rfl : rest = [] :=
      hnormal.eq_nil_of_append hpage (List.self_eq_append_right.1 hsegments) hboundary
    rwa [List.append_nil] at hnormal
  · intro h
    rw [h]
    exact isAtOrBelow_self page

/-- A character that ends a path is not in the page of a location, and is trimmed from none. -/
theorem not_isAtOrBelow_of_endsPath {location : String} {c : Char} (hmem : c ∈ location.toList)
    (hends : Http.Uri.endsPath c = true) :
    isAtOrBelow (Path.trimEnd location.toList) (Path.normalize (pageOf location).toList) =
      false := by
  refine Bool.eq_false_iff.2 fun h => ?_
  obtain ⟨rest, hsplit, -⟩ := exists_append_of_isAtOrBelow h
  have hslash : c ≠ '/' := by
    rintro rfl
    cases hends
  have hpage : c ∈ Path.normalize (pageOf location).toList := by
    rw [hsplit]
    exact List.mem_append_left _ (Path.mem_trimEnd hmem hslash)
  have hfront := (Path.mem_normalize hpage).resolve_left hslash
  rw [pageOf, String.toList_ofList] at hfront
  have hfree := List.mem_takeWhile_imp hfront
  rw [hends] at hfree
  cases hfree

/-- **The gate lets callers through to the page of the location it sends them to** just if the
location is written as the path of a page. -/
theorem isOnboarding_pageOf_iff (gate : Gate) :
    gate.isOnboarding (Path.normalize (pageOf gate.onboardingPath).toList) = true ↔
      IsPage gate.onboardingPath := by
  rw [isOnboarding_iff_isAtOrBelow]
  cases hends : gate.onboardingPath.toList.any Http.Uri.endsPath with
  | false =>
    rw [IsPage, and_iff_left hends, toList_pageOf_of_free hends, ← Path.normalize_trimEnd]
    constructor
    · rintro ⟨hne, hbelow⟩
      exact (isAtOrBelow_normalize_iff (by rwa [Path.segments_trimEnd])).1 hbelow
    · intro hnormal
      have hne : Path.segments gate.onboardingPath.toList ≠ [] := fun hnone => by
        rw [Path.trimEnd_eq_nil_iff.2 hnone] at hnormal
        cases hnormal
      exact ⟨hne, (isAtOrBelow_normalize_iff (by rwa [Path.segments_trimEnd])).2 hnormal⟩
  | true =>
    obtain ⟨c, hmem, hend⟩ := List.any_eq_true.1 hends
    refine iff_of_false (fun h => ?_) fun h => Bool.false_ne_true (h.2.symm.trans hends)
    rw [not_isAtOrBelow_of_endsPath hmem hend] at h
    cases h.2

end Gate
end Routing

namespace Config

open Routing

variable {backend backend' : Registration.Backend} {now now' : Nat} {first next : Request}
  {id id' : RequestId} {trace trace' : Trace} {error error' : SessionError} {location : String}
  {status : Http.Status}

/-- Whether callers without a session get to the page of a location: it is written as the path of a
page, or the page has an exempt prefix, or its last segment is on the allow list. -/
def Awaits (c : Config) (location : String) : Prop :=
  IsPage location ∨
    (∃ start ∈ c.app.exemptPrefixes,
      start.toList <+: (Request.normalized (pageOf location)).toList) ∨
    (Request.ofPath (pageOf location) {}).finalSegment? = some "profile"

theorem isAllowListed_profile (c : Config) (resolver : Session.Resolver) (request : Request) :
    (c.profile.gate resolver).isAllowListed request = (request.finalSegment? == some "profile") :=
  @Profile.isAllowListed_forApp resolver c.app.app c.app.effectiveBasePath request

/-- The gate lets callers through to the page of its location just if it awaits them there. -/
theorem opens_page_iff (c : Config) (resolver : Session.Resolver)
    (hpath : next.path = Request.normalized (pageOf c.app.onboardingPath)) :
    ((c.profile.gate resolver).isExempt next || (c.profile.gate resolver).isAllowListed next) =
      true ↔
      c.Awaits c.app.onboardingPath := by
  have honboarding : (c.profile.gate resolver).isOnboarding next.path.toList = true ↔
      IsPage c.app.onboardingPath := by
    rw [hpath, Request.normalized, String.toList_ofList]
    exact (c.profile.gate resolver).isOnboarding_pageOf_iff
  have hexempt : (c.profile.gate resolver).isExempt next = true ↔ IsPage c.app.onboardingPath ∨
      ∃ start ∈ c.app.exemptPrefixes,
        start.toList <+: (Request.normalized (pageOf c.app.onboardingPath)).toList := by
    rw [Gate.isExempt, Bool.or_eq_true, honboarding, List.any_eq_true, hpath]
    simp only [List.isPrefixOf_iff_prefix]
    rfl
  have hallowed : (c.profile.gate resolver).isAllowListed next = true ↔
      (Request.ofPath (pageOf c.app.onboardingPath) {}).finalSegment? = some "profile" := by
    have hbare : next.path = (Request.ofPath (pageOf c.app.onboardingPath) {}).path := hpath
    rw [Gate.isAllowListed_congr hbare, isAllowListed_profile, beq_iff_eq]
  rw [Bool.or_eq_true, hexempt, hallowed, or_assoc, Awaits]

/-- **A caller without a session who follows the redirect to sign in arrives just if the page of the
location awaits such callers,** and is else sent to the same location again. -/
theorem arrives_iff (c : Config) (hfirst : c.resolver.resolve now first = .error error)
    (hsent : (c.profile.chain c.resolver.resolve backend now).decision id trace first =
      .redirect location status)
    (hnext : c.resolver.resolve now' next = .error error')
    (hpath : next.path = Request.normalized (pageOf location)) :
    ((c.profile.chain c.resolver.resolve backend' now').decision id' trace' next = .passThrough ↔
        c.Awaits location) ∧
      ((c.profile.chain c.resolver.resolve backend' now').decision id' trace' next =
          .redirect location .temporaryRedirect ↔
        ¬ c.Awaits location) := by
  obtain rfl : c.app.onboardingPath = location := by
    rw [Profile.decision_of_unknown hfirst] at hsent
    split at hsent
    · cases hsent
    · exact (Decision.redirect.inj hsent).1
  have hopens := opens_page_iff c c.resolver.resolve hpath
  rw [Profile.decision_of_unknown hnext]
  split
  · next hopen =>
    have hawaits := hopens.1 hopen
    exact ⟨iff_of_true rfl hawaits, iff_of_false Decision.noConfusion (not_not_intro hawaits)⟩
  · next hclosed =>
    have hawaits : ¬ c.Awaits c.app.onboardingPath := fun h => hclosed (hopens.2 h)
    exact ⟨iff_of_false Decision.noConfusion hawaits, iff_of_true rfl hawaits⟩

/-- A configuration that is accepted, with a location for callers without a session. -/
def sendingTo (location : String) : Config :=
  { Gateway.Service.plainConfig with app := { onboardingPath := location } }

/-- A slash at the end does no harm. -/
theorem arrives_iff_slash_at_end :
    (((sendingTo "/welcome/").profile.chain (sendingTo "/welcome/").resolver.resolve
        (Registration.Records.backend {}) 0).decision ⟨1⟩ {}
          (.ofPath "/administration/contacts" {})) =
        .redirect "/welcome/" .temporaryRedirect ∧
      (((sendingTo "/welcome/").profile.chain (sendingTo "/welcome/").resolver.resolve
        (Registration.Records.backend {}) 1).decision ⟨2⟩ {} (.ofPath "/welcome/" {})) =
        .passThrough := by
  have hsent : (((sendingTo "/welcome/").profile.chain (sendingTo "/welcome/").resolver.resolve
      (Registration.Records.backend {}) 0).decision ⟨1⟩ {}
        (.ofPath "/administration/contacts" {})) =
      .redirect "/welcome/" .temporaryRedirect := by decide +kernel
  have hfirst : (sendingTo "/welcome/").resolver.resolve 0 (.ofPath "/administration/contacts" {}) =
      .error .absent := rfl
  have hnext : (sendingTo "/welcome/").resolver.resolve 1 (.ofPath "/welcome/" {}) =
      .error .absent := rfl
  have hpage : IsPage "/welcome/" := ⟨by decide, by decide⟩
  exact ⟨hsent, (arrives_iff _ hfirst hsent hnext rfl).1.2 (Or.inl hpage)⟩

/-- A location with a query is accepted, and callers who are sent to it are sent there again when
they ask for its page. -/
theorem sent_round :
    (sendingTo "/welcome?lang=en").validate.toOption = some () ∧
      ((sendingTo "/welcome?lang=en").profile.chain (sendingTo "/welcome?lang=en").resolver.resolve
        (Registration.Records.backend {}) 0).decision ⟨1⟩ {}
          (.ofPath "/administration/contacts" {}) =
        .redirect "/welcome?lang=en" .temporaryRedirect ∧
      (sendingTo "/welcome?lang=en").resolver.resolve 1 (.ofPath (pageOf "/welcome?lang=en") {}) =
        .error .absent ∧
      ((sendingTo "/welcome?lang=en").profile.chain (sendingTo "/welcome?lang=en").resolver.resolve
        (Registration.Records.backend {}) 1).decision ⟨2⟩ {}
          (.ofPath (pageOf "/welcome?lang=en") {}) =
        .redirect "/welcome?lang=en" .temporaryRedirect := by
  refine ⟨?_, ?_, rfl, ?_⟩ <;> decide +kernel

end Config
end Gatehouse
