import Gatehouse.Proofs.Gateway.Onboarding
import Gatehouse.Proofs.Path.Placing

/-!
# Tests on the texts of paths

The stages compare texts: whether a path starts with the base, or the rest of it with a namespace,
or the path with the page where people sign in; and then they look at the character that comes next.
What is meant is a comparison of segments.  A word may start with another word, a slash may be
missing at the end of a path, and nothing may be left behind a base; but in a path in normal form,
and those of requests are, none of these makes a difference.

* `isAtOrBelow_trimEnd_iff` — a path is at a page or below it just if its segments start with those
  of the page.
* `prefix_tests_by_segments` — this for the base, the namespace of a role and the page where people
  sign in, and the last segment of a path.
-/

set_option autoImplicit false

namespace Gatehouse
namespace Routing
namespace Gate

variable {gate : Gate} {request : Request} {base page path : List Char} {text : String}

/-- **A path is at a page or below it just if its segments start with those of the page.** -/
theorem isAtOrBelow_trimEnd_iff (hpage : Path.IsBase page) (hpath : Path.IsNormal path)
    (hne : Path.segments page ≠ []) :
    isAtOrBelow (Path.trimEnd page) path = true ↔ Path.segments page <+: Path.segments path := by
  constructor
  · intro h
    obtain ⟨rest, hsplit, hboundary⟩ := exists_append_of_isAtOrBelow h
    rw [hsplit, Path.segments_append_of_atBoundary _ hboundary, Path.segments_trimEnd]
    exact List.prefix_append _ _
  · rintro ⟨more, hmore⟩
    rw [isAtOrBelow, hpage.eq_append hpath hne hmore.symm, Path.afterStart?_append]
    exact Path.atBoundary_flatMap more

/-- A path is where people sign in, or below, just if its segments start with those of that page,
which may be written with slashes at its end. -/
theorem isOnboarding_iff (hpage : Path.IsBase gate.onboardingPath.toList)
    (hne : Path.segments gate.onboardingPath.toList ≠ []) (hpath : Path.IsNormal path) :
    gate.isOnboarding path = true ↔
      Path.segments gate.onboardingPath.toList <+: Path.segments path := by
  rw [isOnboarding_iff_isAtOrBelow, and_iff_right hne]
  exact isAtOrBelow_trimEnd_iff hpage hpath hne

/-- **The tests on the path of a request are tests on its segments.**  Without the base are left the
segments behind those of the base, or all of them if the path is not below the base; what is left is
in the namespace of a role just if it starts with the two segments of the namespace; the path is
where people sign in, or below, just if it starts with the segments of that page; and what is found
from the end of the path is the last of its segments. -/
theorem prefix_tests_by_segments (role : Role) (hstored : request.path = Request.normalized text)
    (hbase : Path.IsBase base) (hpage : Path.IsNormal gate.onboardingPath.toList)
    (hroot : gate.onboardingPath ≠ "/") :
    Path.segments (Path.stripBase base request.path.toList) =
        Path.below (Path.segments base) (Path.segments request.path.toList) ∧
      (Path.hasNamespace (Path.stripBase base request.path.toList) role.namespacePath.toList =
        true ↔
        [(Vocabulary.word role.provider).toList, (Vocabulary.word role).toList] <+:
          Path.segments (Path.stripBase base request.path.toList)) ∧
      (gate.isOnboarding request.path.toList = true ↔
        Path.segments gate.onboardingPath.toList <+: Path.segments request.path.toList) ∧
      request.finalSegment? = (Path.segments request.path.toList).getLast?.map String.ofList := by
  have hpath : Path.IsNormal request.path.toList := by
    rw [hstored]
    exact Request.isNormal_ofPath text {}
  have hne : Path.segments gate.onboardingPath.toList ≠ [] := fun hnone =>
    hroot (String.toList_inj.1 (hpage.eq_root hnone))
  refine ⟨Path.segments_stripBase hbase hpath, ?_, isOnboarding_iff hpage.isBase hne hpath, ?_⟩
  · rw [← role.segments_namespacePath]
    exact (Path.isTight_stripBase hbase hpath).hasNamespace_iff role.cons_namespacePath
  · rw [Request.finalSegment?, Path.finalSegment?_eq_getLast?]

/-- A gate with a slash at the end of its base, and with a page to sign in whose last segment is how
the names of some roles start. -/
def portalGate : Gate where
  resolver := Session.fixed none
  basePath := "/portal/"
  onboardingPath := "/portal/idir/cas"

/-- The path has slashes too many, and the text of the page to sign in is in front of it, but its
last segment is not the third of the path. -/
theorem prefix_tests_by_segments_portal :
    Path.IsBase portalGate.basePath.toList ∧ Path.IsNormal portalGate.onboardingPath.toList ∧
      portalGate.onboardingPath ≠ "/" ∧
      Path.segments (Path.stripBase portalGate.basePath.toList
          (Request.ofPath "//portal/idir//cas_admin/contacts/" {}).path.toList) =
        ["idir".toList, "cas_admin".toList, "contacts".toList] ∧
      Path.hasNamespace (Path.stripBase portalGate.basePath.toList
          (Request.ofPath "//portal/idir//cas_admin/contacts/" {}).path.toList)
        Role.casAdmin.namespacePath.toList = true ∧
      portalGate.isOnboarding (Request.ofPath "//portal/idir//cas_admin/contacts/" {}).path.toList =
        false ∧
      (Request.ofPath "//portal/idir//cas_admin/contacts/" {}).finalSegment? = some "contacts" := by
  have hstored : (Request.ofPath "//portal/idir//cas_admin/contacts/" {}).path =
      Request.normalized "//portal/idir//cas_admin/contacts/" := rfl
  have hbase : Path.IsBase portalGate.basePath.toList := by decide
  have hpage : Path.IsNormal portalGate.onboardingPath.toList := by decide
  have hroot : portalGate.onboardingPath ≠ "/" := by decide
  obtain ⟨hrest, hnamespace, honboarding, hlast⟩ :=
    prefix_tests_by_segments .casAdmin hstored hbase hpage hroot
  have houtside : portalGate.isOnboarding
      (Request.ofPath "//portal/idir//cas_admin/contacts/" {}).path.toList = false :=
    Bool.eq_false_iff.2 fun h => absurd (honboarding.1 h) (by decide)
  exact ⟨hbase, hpage, hroot, hrest.trans (by decide), hnamespace.2 (by decide), houtside,
    hlast.trans (by decide)⟩

end Gate
end Routing
end Gatehouse
