import Gatehouse.Config.Validation
import Gatehouse.Proofs.Gateway.Wire
import Gatehouse.Proofs.Path.Canonical
import Gatehouse.Proofs.Path.Placing

/-!
# Bases that can be taken away again

An application is mounted below its base path, and an accepted configuration may have any base that
starts with a slash.  A page is put below the base with `Path.join`, and the base is taken away
again before the rules and the namespace of the caller are looked at.  The first of these brings the
path in normal form; the second compares texts.  So a base with two slashes in a row is never found
at the start of a path, and the application takes its own pages for pages of somebody else.

* `segments_stripBase_join_iff` — a page below a base is found there again just if the base has no
  doubled slash before its end.
* `Config.finds_pages_iff` — the same for the base of an accepted configuration, and where the pages
  of callers are looked for then.
* `Config.nests_pages` — a configuration that is accepted, and under which they are not.
-/

set_option autoImplicit false

namespace Gatehouse
namespace Path

variable {base path : List Char}

/-! ## Taking the base away -/

/-- A base with a doubled slash is not found at the start of a path in normal form. -/
theorem stripBase_of_doubled (hbase : HasDoubledSlash base) (hpath : IsNormal path) :
    stripBase base path = path := by
  cases hstart : afterStart? (trimEnd base) path with
  | none => rw [stripBase, hstart]
  | some rest =>
    refine absurd (hbase.trans ?_) hpath.not_doubled
    rw [eq_append_of_afterStart? hstart]
    exact (List.prefix_append _ _).isInfix

/-- **A page below a base is found there again just if the base has no doubled slash.** -/
theorem segments_stripBase_join_iff (h : base.head? = some '/') (rest : List Char) :
    segments (stripBase base (normalize (join base rest))) = segments rest ↔
      ¬ HasDoubledSlash base := by
  constructor
  · intro hfound hdoubled
    rw [stripBase_of_doubled hdoubled (isNormal_normalize _), segments_normalize, segments_join,
      List.append_left_eq_self, ← trimEnd_eq_nil_iff] at hfound
    rw [HasDoubledSlash, hfound] at hdoubled
    exact absurd hdoubled (by decide)
  · intro hsingle
    rw [segments_stripBase ((isBase_iff h).2 hsingle) (isNormal_normalize _), segments_normalize,
      segments_join, below_append]

end Path

namespace Config

variable {c : Config}

/-- A base that is accepted starts with a slash. -/
theorem head?_basePath_of_validate (h : c.validate = .ok ()) :
    c.app.effectiveBasePath.toList.head? = some '/' := by
  rw [validate_eq_ok_iff, faults, List.filterMap_eq_nil_iff] at h
  have hpath := h (pathFault "app.base_path" c.app.effectiveBasePath) (by simp)
  simp only [id_eq, pathFault] at hpath
  split at hpath
  · next habsolute => exact beq_iff_eq.1 habsolute
  · cases hpath

/-- The request for a page of the application that a configuration mounts. -/
def pageRequest (c : Config) (page : String) : Request :=
  .ofPath (String.ofList (Path.join c.app.effectiveBasePath.toList page.toList)) {}

theorem path_pageRequest (c : Config) (page : String) :
    (c.pageRequest page).path.toList =
      Path.normalize (Path.join c.app.effectiveBasePath.toList page.toList) := by
  rw [pageRequest, Request.ofPath, Request.normalized, String.toList_ofList, String.toList_ofList]

/-- **Under an accepted configuration a request for a page of the application is seen as that page,
whatever the page is, just if the base path has no doubled slash before its end.**  The rules are
then asked about the page itself, and it is looked for in the namespace of the caller, behind the
base. -/
theorem finds_pages_iff (h : c.validate = .ok ()) (page : String) :
    (Path.segments
        (Path.stripBase c.app.effectiveBasePath.toList (c.pageRequest page).path.toList) =
        Path.segments page.toList ↔
      ¬ Path.HasDoubledSlash c.app.effectiveBasePath.toList) ∧
    (¬ Path.HasDoubledSlash c.app.effectiveBasePath.toList →
      (∀ backend rules, Path.segments
          ((c.profile.ruleCheck backend rules).appPath (c.pageRequest page)).toList =
        Path.segments page.toList) ∧
      ∀ resolver claims, Path.segments
          ((c.profile.gate resolver).servedPath claims (c.pageRequest page)).toList =
        Path.segments c.app.effectiveBasePath.toList ++ Path.segments claims.namespacePath.toList ++
          Path.below (Path.segments claims.namespacePath.toList) (Path.segments page.toList)) := by
  have habsolute := head?_basePath_of_validate h
  have hfound := Path.segments_stripBase_join_iff habsolute page.toList
  rw [← path_pageRequest] at hfound
  refine ⟨hfound, fun hsingle => ⟨fun backend rules => ?_, fun resolver claims => ?_⟩⟩
  · rw [Routing.RuleCheck.appPath, String.toList_ofList]
    exact hfound.2 hsingle
  · have hbase := (Path.isBase_iff habsolute).2 hsingle
    have hnormal : Path.IsNormal (c.pageRequest page).path.toList := Request.isNormal_ofPath _ _
    have hns : '/' :: claims.namespacePath.toList =
        (Path.segments claims.namespacePath.toList).flatMap ('/' :: ·) :=
      claims.role.cons_namespacePath
    have hserved := Path.segments_underNamespace_of_isBase hbase hnormal hns
    rw [← Path.segments_stripBase hbase hnormal, hfound.2 hsingle] at hserved
    rw [Routing.Gate.servedPath, String.toList_ofList]
    exact hserved

/-- A configuration with a base of two segments and slashes at its end. -/
def belowPortal : Config where
  backend := { apiUrl := "http://127.0.0.1:4000" }
  session := { secret := "s3cret" }
  app := { basePath := some "/portal/contacts//" }

/-- The page has the name of a segment of the base. -/
theorem finds_pages_belowPortal :
    belowPortal.validate = .ok () ∧
      Path.segments (Path.stripBase "/portal/contacts//".toList
        (belowPortal.pageRequest "/contacts/7").path.toList) = ["contacts".toList, "7".toList] := by
  have hvalid : belowPortal.validate = .ok () := ok_of_toOption (by decide +kernel)
  have hfound := (finds_pages_iff hvalid "/contacts/7").1.2 (by decide +kernel)
  exact ⟨hvalid, hfound.trans (by decide +kernel)⟩

/-- A configuration whose base has two slashes in front. -/
def behindSlashes : Config :=
  { belowPortal with app := { basePath := some "//administration" } }

/-- With two slashes in front of the base, its pages are taken for pages outside of it: the rules
are asked about a page that has the base in its name, and a caller is given the page under the base
twice. -/
theorem nests_pages :
    behindSlashes.validate.toOption = some () ∧ Path.IsNormal "/contacts".toList ∧
      Path.stripBase "//administration".toList
          (behindSlashes.pageRequest "/contacts").path.toList = "/administration/contacts".toList ∧
      Path.segments "/administration/contacts".toList ≠ Path.segments "/contacts".toList ∧
      ∀ resolver, (behindSlashes.profile.gate resolver).servedPath Routing.Profile.industryUser
          (behindSlashes.pageRequest "/contacts") =
        "/administration/bceidbusiness/industry_user/administration/contacts" := by
  have hserved : String.ofList (Path.underNamespace "//administration".toList
        (behindSlashes.pageRequest "/contacts").path.toList
        Routing.Profile.industryUser.namespacePath.toList) =
      "/administration/bceidbusiness/industry_user/administration/contacts" := by decide +kernel
  exact ⟨by decide +kernel, by decide +kernel, by decide +kernel, by decide +kernel,
    fun resolver => hserved⟩

end Config
end Gatehouse
