import Gatehouse.Proofs.Path.Namespace
import Gatehouse.Routing.Profile

/-!
# The home of a caller

The page server keeps the pages of a caller below the base of the application and the caller's
namespace.  What a known caller is served is found there, whether the request names the namespace or
not.

* `Profile.segments_servedPath` — the segments of a path that is served, and those of the path that
  the rules are asked about: they have the same end.
-/

set_option autoImplicit false

namespace Gatehouse

/-- The namespace of a role has two segments. -/
theorem Role.segments_namespacePath (role : Role) :
    Path.segments role.namespacePath.toList =
      [(Vocabulary.word role.provider).toList, (Vocabulary.word role).toList] := by
  cases role with
  | _ => rfl

/-- The namespace of a role is its two segments with a slash between them. -/
theorem Role.cons_namespacePath (role : Role) :
    '/' :: role.namespacePath.toList =
      (Path.segments role.namespacePath.toList).flatMap ('/' :: ·) := by
  cases role with
  | _ => rfl

namespace Routing
namespace Profile

variable {profile : Profile} {request : Request} {claims : Claims}

/-- The segments under which the page server keeps the pages of a caller: those of the base, and
those of the namespace. -/
def home (profile : Profile) (claims : Claims) : List (List Char) :=
  Path.segments profile.basePath.toList ++ Path.segments claims.namespacePath.toList

/-- Whether a request names the namespace of a caller. -/
def namesNamespace (profile : Profile) (claims : Claims) (request : Request) : Bool :=
  Path.hasNamespace (Path.stripBase profile.basePath.toList request.path.toList)
    claims.namespacePath.toList

theorem of_mem_home {s : List Char} (h : s ∈ profile.home claims) : s ≠ [] ∧ '/' ∉ s := by
  rcases List.mem_append.1 h with h | h
  · exact Path.of_mem_segments h
  · exact Path.of_mem_segments h

/-- **What is served is below the caller's home,** and the rules are asked about the same page, with
the namespace in front of it if the request names the namespace. -/
theorem segments_servedPath (profile : Profile) (resolver : Session.Resolver) (claims : Claims)
    (hpath : Path.IsNormal request.path.toList) :
    ∃ part,
      Path.segments ((profile.gate resolver).servedPath claims request).toList =
        profile.home claims ++ part ∧
      Path.segments (Path.stripBase profile.basePath.toList request.path.toList) =
        (if profile.namesNamespace claims request then Path.segments claims.namespacePath.toList
          else []) ++ part := by
  obtain ⟨part, hserved, hrest⟩ := Path.segments_underNamespace profile.basePath.toList
    claims.namespacePath.toList hpath.atBoundary
  refine ⟨part, ?_, hrest⟩
  rw [Gate.servedPath, String.toList_ofList]
  exact hserved

/-- A caller, for examples. -/
def industryUser : Claims := ⟨.industryUser, "u", by decide⟩

end Profile
end Routing
end Gatehouse
