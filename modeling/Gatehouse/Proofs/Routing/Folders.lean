import Gatehouse.Proofs.Routing.Anonymous

/-!
# The folders of the roles

The page server keeps the pages of a role in a folder of their own, below the base of the
application.  Whoever is served a page is served it from the folder of their own role; but a request
that is passed through goes to the page server as it is, and it may name a folder.

* `caller_of_folder_of_not_exempt` — if the page that is asked for in the end lies in a folder and
  the request is not exempt, the caller is known and of that role, or the page is on the allow list.
* `caller_of_folder` — in the three applications nothing in a folder is exempt, so a page in a
  folder goes to callers of that role alone, but for the pages on the allow list.
* `passes_into_folder` — a request that is passed into a folder for everybody.
-/

set_option autoImplicit false

namespace Gatehouse

/-- Roles with the same two segments have the same namespace. -/
theorem Role.namespacePath_inj {role other : Role}
    (h : Path.segments role.namespacePath.toList = Path.segments other.namespacePath.toList) :
    role.namespacePath = other.namespacePath := by
  have hcons := role.cons_namespacePath
  rw [h, ← other.cons_namespacePath] at hcons
  exact String.toList_inj.1 (List.cons.inj hcons).2

namespace Routing
namespace Profile

variable {profile : Profile} {resolver : Session.Resolver} {backend : Registration.Backend}
  {now : Nat} {request : Request} {id : RequestId} {trace : Trace} {role : Role} {page : String}

/-- The segments of the folder that holds the pages of a role. -/
def folder (profile : Profile) (role : Role) : List (List Char) :=
  Path.segments profile.basePath.toList ++ Path.segments role.namespacePath.toList

/-- What lies in two folders lies in one: their namespaces have the same length. -/
theorem namespacePath_eq_of_folder {other : Role} {part segments : List (List Char)}
    (hrole : profile.folder role <+: segments) (hother : segments = profile.folder other ++ part) :
    other.namespacePath = role.namespacePath := by
  obtain ⟨rest, hrest⟩ := hrole
  rw [hother, folder, folder, List.append_assoc, List.append_assoc] at hrest
  have hnamespaces := List.append_cancel_left hrest
  have hlength : (Path.segments role.namespacePath.toList).length =
      (Path.segments other.namespacePath.toList).length := by
    rw [role.segments_namespacePath, other.segments_namespacePath]
    rfl
  exact (Role.namespacePath_inj (List.append_inj hnamespaces hlength).1).symm

/-- If the page server is asked for a page on behalf of a known caller, the rules have nothing
against it. -/
theorem decision_of_effectivePath {claims : Claims}
    (hexempt : (profile.gate resolver).isExempt request = false)
    (hclaims : resolver now request = .ok claims)
    (hpage : ((profile.chain resolver backend now).decision id trace request).effectivePath
      request.path = some page) :
    (profile.chain resolver backend now).decision id trace request =
      profile.admission resolver request claims := by
  rw [decision_eq_outcome, outcome_of_known hexempt hclaims] at hpage ⊢
  cases hverdict : (profile.verdict backend request (some claims) trace).1 with
  | none => rfl
  | some location =>
    rw [hverdict] at hpage
    cases hpage

/-- **A page in a folder goes to callers of that role,** if the request is not exempt; pages on the
allow list are passed as they are. -/
theorem caller_of_folder_of_not_exempt
    (hexempt : (profile.gate resolver).isExempt request = false)
    (hpath : Path.IsNormal request.path.toList)
    (hpage : ((profile.chain resolver backend now).decision id trace request).effectivePath
      request.path = some page)
    (hfolder : profile.folder role <+: Path.segments page.toList) :
    if (profile.gate resolver).isAllowListed request
      then (profile.chain resolver backend now).decision id trace request = .passThrough
    else ∃ claims, resolver now request = .ok claims ∧
      claims.namespacePath = role.namespacePath ∧
      (profile.chain resolver backend now).decision id trace request = .serve page := by
  cases hsession : resolver now request with
  | error error =>
    rw [decision_of_unknown hsession, hexempt, Bool.false_or] at hpage ⊢
    cases hlisted : (profile.gate resolver).isAllowListed request with
    | true => rfl
    | false =>
      rw [hlisted] at hpage
      cases hpage
  | ok claims =>
    have hdecision := decision_of_effectivePath hexempt hsession hpage
    rw [hdecision, admission] at hpage ⊢
    cases hlisted : (profile.gate resolver).isAllowListed request with
    | true => rfl
    | false =>
      rw [hlisted] at hpage
      obtain rfl : (profile.gate resolver).servedPath claims request = page :=
        Option.some.inj hpage
      obtain ⟨part, hserved, -⟩ := profile.segments_servedPath resolver claims hpath
      exact ⟨claims, rfl, namespacePath_eq_of_folder hfolder hserved, rfl⟩

/-! ## The three applications -/

/-- What starts with the base of an application is not exempt there. -/
theorem not_exempt_of_append (app : App) {rest : List Char}
    (h : request.path.toList = app.defaultBasePath.toList ++ rest) :
    ((forApp app).gate resolver).isExempt request = false := by
  have honboarding : Gate.isAtOrBelow (Path.trimEnd defaultOnboardingPath.toList)
      (app.defaultBasePath.toList ++ rest) = false := by
    cases app with
    | administration | registration | dashboard => rfl
  have hprefixes : (defaultExemptPrefixes.any fun start =>
      start.toList.isPrefixOf (app.defaultBasePath.toList ++ rest)) = false := by
    cases app with
    | administration | registration | dashboard => rfl
  rw [← h] at honboarding hprefixes
  rw [Gate.isExempt, Gate.isOnboarding, Bool.or_eq_false_iff, Bool.and_eq_false_iff]
  exact ⟨Or.inr honboarding, hprefixes⟩

/-- Nothing in a folder is exempt. -/
theorem not_exempt_of_folder (app : App) (hpath : Path.IsNormal request.path.toList)
    (hfolder : (forApp app).folder role <+: Path.segments request.path.toList) :
    ((forApp app).gate resolver).isExempt request = false := by
  obtain ⟨part, hpart⟩ := hfolder
  have hbase : app.defaultBasePath.toList =
      (Path.segments app.defaultBasePath.toList).flatMap ('/' :: ·) := by
    cases app with
    | administration | registration | dashboard => rfl
  have hne : Path.segments request.path.toList ≠ [] := by
    rw [← hpart, folder, role.segments_namespacePath]
    simp
  have hall := hpath.eq_flatMap hne
  rw [← hpart, folder, List.append_assoc, List.flatMap_append] at hall
  exact not_exempt_of_append app (hall.trans (congrArg (· ++ _) hbase.symm))

/-- **In the three applications a page in a folder goes to callers of that role alone,** but for
pages on the allow list: those the page server is asked for as they are, whoever calls. -/
theorem caller_of_folder (app : App) (request : Request)
    (hpath : Path.IsNormal request.path.toList)
    (hpage : (((forApp app).chain resolver backend now).decision id trace request).effectivePath
      request.path = some page)
    (hfolder : (forApp app).folder role <+: Path.segments page.toList) :
    if request.finalSegment? = some "profile"
      then ((forApp app).chain resolver backend now).decision id trace request = .passThrough
    else ∃ claims, resolver now request = .ok claims ∧
      claims.namespacePath = role.namespacePath ∧
      ((forApp app).chain resolver backend now).decision id trace request = .serve page := by
  have hexempt : ((forApp app).gate resolver).isExempt request = false := by
    cases hexempt : ((forApp app).gate resolver).isExempt request with
    | false => rfl
    | true =>
      -- an exempt request is passed as it is, so its own path would lie in the folder
      rw [decision_eq_outcome, outcome_of_exempt hexempt] at hpage
      obtain rfl : request.path = page := Option.some.inj hpage
      rw [not_exempt_of_folder app hpath hfolder] at hexempt
      cases hexempt
  have hcaller := caller_of_folder_of_not_exempt hexempt hpath hpage hfolder
  rw [isAllowListed_forApp app (forApp app).basePath] at hcaller
  simpa only [beq_iff_eq] using hcaller

/-- The chain of the application for administration, with one answer about every caller. -/
def staffChain (caller : Option Claims) : Chain :=
  (forApp .administration).chain (Session.fixed caller) (Registration.Records.backend {}) 0

/-- A request for a page in the folder of the administrators. -/
def askFor (page : String) : Request :=
  .ofPath ("/administration/idir/cas_admin/" ++ page) {}

/-- A caller who asks for a page in the folder of another role is served one in their own. -/
theorem caller_of_folder_contacts :
    (forApp .administration).folder .industryUser <+: Path.segments
        "/administration/bceidbusiness/industry_user/idir/cas_admin/contacts".toList ∧
      ∃ claims, Session.fixed (some industryUser) 0 (askFor "contacts") = .ok claims ∧
        claims.namespacePath = Role.industryUser.namespacePath ∧
        (staffChain (some industryUser)).decision ⟨1⟩ {} (askFor "contacts") =
          .serve "/administration/bceidbusiness/industry_user/idir/cas_admin/contacts" := by
  have hpage : ((staffChain (some industryUser)).decision ⟨1⟩ {} (askFor "contacts")).effectivePath
      (askFor "contacts").path =
        some "/administration/bceidbusiness/industry_user/idir/cas_admin/contacts" := by decide
  have hfolder : (forApp .administration).folder .industryUser <+: Path.segments
      "/administration/bceidbusiness/industry_user/idir/cas_admin/contacts".toList := by decide
  have hpath : Path.IsNormal (askFor "contacts").path.toList := Request.isNormal_ofPath _ _
  have hlast : (askFor "contacts").finalSegment? ≠ some "profile" := by decide
  have hcaller := caller_of_folder .administration (askFor "contacts") hpath hpage hfolder
  rw [if_neg hlast] at hcaller
  exact ⟨hfolder, hcaller⟩

/-- The profile page in the folder of the administrators is passed to everybody: to those who send
no session, and to callers of another role. -/
theorem passes_into_folder :
    (forApp .administration).folder .casAdmin <+: Path.segments (askFor "profile").path.toList ∧
      Session.fixed none 0 (askFor "profile") = .error .absent ∧
      ((staffChain none).decision ⟨1⟩ {} (askFor "profile")).effectivePath
        (askFor "profile").path = some (askFor "profile").path ∧
      industryUser.namespacePath ≠ Role.casAdmin.namespacePath ∧
      ((staffChain (some industryUser)).decision ⟨1⟩ {} (askFor "profile")).effectivePath
        (askFor "profile").path = some (askFor "profile").path := by
  have hstranger : Session.fixed none 0 (askFor "profile") = .error .absent := rfl
  exact ⟨by decide, hstranger, by decide, by decide, by decide⟩

end Profile
end Routing
end Gatehouse
