import Gatehouse.Proofs.Path.Placing
import Gatehouse.Proofs.Routing.Outcome
import Gatehouse.Registration.Records

/-!
# Paths that are served and asked for again

What is served to a caller is a path, and nothing keeps the caller from asking for that path next.
The stages see it in normal form, and it is then put below the base and the namespace a second time.
In an application without rules both come to nothing, so the same path is served again; there is one
exception, where the path that was served is not in normal form.

* `Profile.served_again` — what is served the second time, and when it is the same path.
* `Profile.served_elsewhere` — the exception: an application at the root, asked for the root.
-/

set_option autoImplicit false

namespace Gatehouse

theorem Request.normalized_eq_iff (path : String) :
    normalized path = path ↔ Path.IsNormal path.toList := by
  rw [normalized, ← String.toList_inj, String.toList_ofList, Path.IsNormal]

/-- The root is the only path in normal form that has no segments. -/
theorem Path.IsNormal.segments_eq_nil_iff {path : String} (h : IsNormal path.toList) :
    segments path.toList = [] ↔ path = "/" := by
  refine ⟨fun hnone => String.toList_inj.1 (h.eq_root hnone), ?_⟩
  rintro rfl
  rfl

namespace Routing
namespace Profile

variable {profile : Profile} {resolver : Session.Resolver} {backend backend' : Registration.Backend}
  {now now' : Nat} {request : Request} {id id' : RequestId} {trace trace' : Trace} {claims : Claims}
  {served : String} {headers : Headers}

/-- Without rules a known caller is served the page under their namespace, if it needs one. -/
theorem decision_of_no_rules (hrules : profile.rules = none)
    (hexempt : (profile.gate resolver).isExempt request = false)
    (hlisted : (profile.gate resolver).isAllowListed request = false)
    (hclaims : resolver now request = .ok claims) :
    (profile.chain resolver backend now).decision id trace request =
      .serve ((profile.gate resolver).servedPath claims request) := by
  have hverdict : profile.verdict backend request (some claims) trace = (none, trace) := by
    rw [verdict, hrules]
  rw [decision_eq_outcome, outcome_of_known hexempt hclaims, hverdict, sentOr, admission, hlisted,
    if_neg Bool.false_ne_true]

/-- A path that is served is put where it is, in normal form. -/
theorem servedPath_ofPath (hbase : Path.IsBase profile.basePath.toList)
    (hpath : Path.IsNormal request.path.toList)
    (hserved : served = (profile.gate resolver).servedPath claims request) :
    (profile.gate resolver).servedPath claims (.ofPath served headers) =
      Request.normalized served := by
  have hplaced : (Request.ofPath served headers).path.toList =
      Path.normalize (Path.underNamespace profile.basePath.toList request.path.toList
        claims.namespacePath.toList) := by
    rw [hserved, Gate.servedPath, Request.ofPath, Request.normalized, String.toList_ofList,
      String.toList_ofList]
    rfl
  have hagain := Path.underNamespace_normalize hbase hpath claims.role.cons_namespacePath
  rw [Gate.servedPath, hplaced]
  refine (congrArg String.ofList hagain).trans ?_
  rw [← String.toList_inj, String.toList_ofList]
  exact hplaced.symm

/-- **Whoever asks for the path they are served is served the normal form of it,** in an application
without rules, and that is the same path unless the application is mounted at the root and the root
was asked for. -/
theorem served_again (hrules : profile.rules = none) (hbase : Path.IsNormal profile.basePath.toList)
    (hpath : Path.IsNormal request.path.toList) (hclaims : resolver now request = .ok claims)
    (hserved : (profile.chain resolver backend now).decision id trace request = .serve served)
    (hexempt : (profile.gate resolver).isExempt (.ofPath served headers) = false)
    (hlisted : (profile.gate resolver).isAllowListed (.ofPath served headers) = false)
    (hagain : resolver now' (.ofPath served headers) = .ok claims) :
    (profile.chain resolver backend' now').decision id' trace' (.ofPath served headers) =
        .serve (Request.normalized served) ∧
      ((profile.chain resolver backend' now').decision id' trace' (.ofPath served headers) =
          .serve served ↔
        ¬ (profile.basePath = "/" ∧ request.path = "/")) := by
  rw [decision_eq_outcome] at hserved
  obtain ⟨-, -, hplaced⟩ := outcome_serve hclaims hserved
  rw [decision_of_no_rules hrules hexempt hlisted hagain,
    servedPath_ofPath hbase.isBase hpath hplaced]
  refine ⟨rfl, ?_⟩
  rw [Decision.serve.injEq, Request.normalized_eq_iff, hplaced, Gate.servedPath,
    String.toList_ofList, ← hbase.segments_eq_nil_iff, ← hpath.segments_eq_nil_iff]
  exact Path.isNormal_underNamespace_iff _ hpath claims.role.cons_namespacePath

/-- An application at the root. -/
def atRoot : Profile where
  label := "atRoot"
  basePath := "/"

/-- Its chain, for one caller. -/
def atRootChain : Chain :=
  atRoot.chain (Session.fixed (some industryUser)) (Registration.Records.backend {}) 0

/-- A page of the application at the root, with the first half of the caller's namespace for a
name. -/
theorem served_again_bceidbusiness :
    atRootChain.decision ⟨1⟩ {} (.ofPath "/bceidbusiness" {}) =
        .serve "/bceidbusiness/industry_user/bceidbusiness" ∧
      atRootChain.decision ⟨2⟩ {} (.ofPath "/bceidbusiness/industry_user/bceidbusiness" {}) =
        .serve "/bceidbusiness/industry_user/bceidbusiness" := by
  have hserved : atRootChain.decision ⟨1⟩ {} (.ofPath "/bceidbusiness" {}) =
      .serve "/bceidbusiness/industry_user/bceidbusiness" := by decide
  have hpath := Request.isNormal_ofPath "/bceidbusiness" {}
  have hexempt : (atRoot.gate (Session.fixed (some industryUser))).isExempt
      (.ofPath "/bceidbusiness/industry_user/bceidbusiness" {}) = false := by decide
  obtain ⟨-, hsame⟩ := served_again rfl (by decide) hpath rfl hserved hexempt (by decide) rfl
  exact ⟨hserved, hsame.2 (by decide)⟩

/-- The root of an application at the root is served with a slash at its end, and whoever asks for
that is served it without. -/
theorem served_elsewhere :
    atRoot.rules = none ∧ Path.IsNormal atRoot.basePath.toList ∧
      atRootChain.decision ⟨1⟩ {} (.ofPath "/" {}) = .serve "/bceidbusiness/industry_user/" ∧
      (atRoot.gate (Session.fixed (some industryUser))).isExempt
        (.ofPath "/bceidbusiness/industry_user/" {}) = false ∧
      (atRoot.gate (Session.fixed (some industryUser))).isAllowListed
        (.ofPath "/bceidbusiness/industry_user/" {}) = false ∧
      atRootChain.decision ⟨2⟩ {} (.ofPath "/bceidbusiness/industry_user/" {}) =
        .serve "/bceidbusiness/industry_user" := by
  refine ⟨rfl, ?_, ?_, ?_, ?_, ?_⟩ <;> decide

end Profile
end Routing
end Gatehouse
