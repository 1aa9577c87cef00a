import Gatehouse.Proofs.Path.Prefixes
import Gatehouse.Proofs.Routing.Home

/-!
# Placing a path in a namespace

`Path.underNamespace` puts a path below a base and a namespace.  It is applied to whatever a caller
asks for, and callers may ask for a path that was placed before, so two things matter: which
segments the result has, and that placing it again changes nothing, not even a slash.

The second has to be seen separately for the root.  What is put below another base is in normal
form, so its segments decide; but below the root a slash at the end is kept, and the comparison is
of texts.

* `segments_underNamespace_of_isBase` — base, namespace, and then the rest of the path, in which the
  namespace in front is left out.
* `underNamespace_of_placed` — placing a second time.
* `underNamespace_places_once` — both, for the namespace of a role.
-/

set_option autoImplicit false

namespace Gatehouse
namespace Path

variable {base path ns rest : List Char}

/-! ## Segments -/

/-- **The segments of a path that was placed:** those of the base, those of the namespace, and those
of the path below the two. -/
theorem segments_underNamespace_of_isBase (hbase : IsBase base) (hpath : IsNormal path)
    (hns : '/' :: ns = (segments ns).flatMap ('/' :: ·)) :
    segments (underNamespace base path ns) =
      segments base ++ segments ns ++
        below (segments ns) (below (segments base) (segments path)) := by
  obtain ⟨part, hplaced, hrest⟩ := segments_underNamespace base ns hpath.atBoundary
  rw [segments_stripBase hbase hpath] at hrest
  have hinside := hasNamespace_stripBase_iff hbase hpath hns
  rw [hplaced]
  cases hin : hasNamespace (stripBase base path) ns with
  | true =>
    rw [hin, if_pos rfl] at hrest
    rw [hrest, below_append]
  | false =>
    rw [hin, if_neg Bool.false_ne_true, List.nil_append] at hrest
    rw [hin] at hinside
    rw [below_of_outside fun h => Bool.false_ne_true (hinside.2 h), hrest]

/-! ## Placing again -/

/-- A namespace in front of a text that goes on at a segment boundary. -/
theorem hasNamespace_append (hns : '/' :: ns = (segments ns).flatMap ('/' :: ·))
    (h : atBoundary rest = true) : hasNamespace (ns ++ rest) ns = true := by
  rw [hasNamespace, trimStart_append_of_text hns, afterStart?_append]
  exact h

/-- How many slashes stand in front does not matter for the namespace. -/
theorem hasNamespace_cons_trimStart (rest ns : List Char) :
    hasNamespace ('/' :: trimStart rest) ns = hasNamespace rest ns := by
  have hagain : trimStart (trimStart rest) = trimStart rest := List.dropWhile_idempotent _ rest
  rw [hasNamespace, trimStart_cons_slash, hagain, hasNamespace]

/-- What is put below the root. -/
theorem underNamespace_of_root (hroot : trimEnd base = []) (h : atBoundary path = true) :
    underNamespace base path ns =
      '/' :: trimStart (if hasNamespace path ns then path else ns ++ path) := by
  rw [underNamespace_eq_join, stripBase_of_root hroot h, join_of_root hroot]

theorem underNamespace_again_of_root (hroot : trimEnd base = []) (h : atBoundary path = true)
    (hns : '/' :: ns = (segments ns).flatMap ('/' :: ·)) :
    underNamespace base (underNamespace base path ns) ns = underNamespace base path ns := by
  have hin : hasNamespace (if hasNamespace path ns then path else ns ++ path) ns = true := by
    split
    · next hin => exact hin
    · exact hasNamespace_append hns h
  rw [underNamespace_of_root hroot h]
  generalize (if hasNamespace path ns then path else ns ++ path) = placed at hin ⊢
  rw [underNamespace_of_root hroot rfl, hasNamespace_cons_trimStart, hin, if_pos rfl,
    trimStart_cons_slash]
  exact congrArg ('/' :: ·) (List.dropWhile_idempotent _ placed)

/-- A path in normal form stays where it is if its segments are already those of the base and then
those of the namespace. -/
theorem underNamespace_of_placed (hbase : IsBase base) (hpath : IsNormal path)
    (hns : '/' :: ns = (segments ns).flatMap ('/' :: ·)) {part : List (List Char)}
    (hplaced : segments path = segments base ++ segments ns ++ part) :
    underNamespace base path ns = path := by
  have hrest : segments (stripBase base path) = segments ns ++ part := by
    rw [segments_stripBase hbase hpath, hplaced, List.append_assoc, below_append]
  have hin : hasNamespace (stripBase base path) ns = true :=
    ((isTight_stripBase hbase hpath).hasNamespace_iff hns).2 ⟨part, hrest.symm⟩
  rw [underNamespace_eq_join, hin, if_pos rfl]
  by_cases hroot : trimEnd base = []
  · rw [join_of_root hroot, stripBase_of_root hroot hpath.atBoundary, hpath.cons_trimStart]
  · rw [join_of_ne hroot, hrest, ← List.append_assoc, ← hplaced]
    exact hpath

/-- Placing a path a second time changes nothing. -/
theorem underNamespace_again (hbase : IsBase base) (hpath : IsNormal path)
    (hns : '/' :: ns = (segments ns).flatMap ('/' :: ·)) :
    underNamespace base (underNamespace base path ns) ns = underNamespace base path ns := by
  by_cases hroot : trimEnd base = []
  · exact underNamespace_again_of_root hroot hpath.atBoundary hns
  · have hnormal : IsNormal (underNamespace base path ns) := by
      rw [underNamespace_eq_join]
      exact isNormal_join_of_ne hroot _
    exact underNamespace_of_placed hbase hnormal hns
      (segments_underNamespace_of_isBase hbase hpath hns)

/-! ## Slashes -/

/-- A path that was placed, without the slashes that are too many, stays where it is. -/
theorem underNamespace_normalize (hbase : IsBase base) (hpath : IsNormal path)
    (hns : '/' :: ns = (segments ns).flatMap ('/' :: ·)) :
    underNamespace base (normalize (underNamespace base path ns)) ns =
      normalize (underNamespace base path ns) :=
  underNamespace_of_placed hbase (isNormal_normalize _) hns
    ((segments_normalize _).trans (segments_underNamespace_of_isBase hbase hpath hns))

/-- A namespace in front of a path is in normal form, unless the path is the root: a slash is then
all that follows the namespace. -/
theorem isNormal_cons_append_iff (hpath : IsNormal path)
    (hns : '/' :: ns = (segments ns).flatMap ('/' :: ·)) :
    IsNormal ('/' :: (ns ++ path)) ↔ segments path ≠ [] := by
  constructor
  · intro h hnone
    obtain ⟨d, ds, hcons, hd⟩ := exists_cons_of_text hns
    rw [hpath.eq_root hnone] at h
    obtain ⟨front, c, hend, hc⟩ := h.exists_concat
      (by rw [segments_cons_slash, hcons]; exact segments_cons_ne_nil hd _)
    rw [← List.cons_append] at hend
    exact hc (List.singleton_inj.1 (List.append_inj' hend rfl).2).symm
  · intro hne
    have hall : segments ns ++ segments path ≠ [] := fun h => hne (List.append_eq_nil_iff.1 h).2
    rw [IsNormal, normalize, segments_cons_slash, segments_append_of_atBoundary ns hpath.atBoundary,
      ofSegments_of_ne hall, List.flatMap_append, ← hns, ← hpath.eq_flatMap hne, List.cons_append]

/-- **Only the root below the root is placed with a slash too many.** -/
theorem isNormal_underNamespace_iff (base : List Char) (hpath : IsNormal path)
    (hns : '/' :: ns = (segments ns).flatMap ('/' :: ·)) :
    IsNormal (underNamespace base path ns) ↔ ¬ (segments base = [] ∧ segments path = []) := by
  by_cases hroot : trimEnd base = []
  · rw [underNamespace_of_root hroot hpath.atBoundary, trimEnd_eq_nil_iff.1 hroot]
    cases hin : hasNamespace path ns with
    | true =>
      rw [if_pos rfl, hpath.cons_trimStart]
      refine iff_of_true hpath fun h => ?_
      -- the root is not in a namespace
      rw [hpath.eq_root h.2, hasNamespace] at hin
      obtain ⟨c, cs, rfl, -⟩ := exists_cons_of_text hns
      cases hin
    | false =>
      rw [if_neg Bool.false_ne_true, trimStart_append_of_text hns,
        isNormal_cons_append_iff hpath hns]
      exact ⟨fun hne h => hne h.2, fun h hnone => h ⟨rfl, hnone⟩⟩
  · refine iff_of_true ?_ fun h => hroot (trimEnd_eq_nil_iff.2 h.1)
    rw [underNamespace_eq_join]
    exact isNormal_join_of_ne hroot _

/-- **Placing a path in the namespace of a role** puts the segments of the base and the two segments
of the namespace in front of the path below the base, in which the namespace is not repeated if it
stands in front; and whoever does it again gets the same text. -/
theorem underNamespace_places_once (role : Role) (hbase : IsBase base) (hpath : IsNormal path) :
    segments (underNamespace base path role.namespacePath.toList) =
        segments base ++ [(Vocabulary.word role.provider).toList, (Vocabulary.word role).toList] ++
          below [(Vocabulary.word role.provider).toList, (Vocabulary.word role).toList]
            (below (segments base) (segments path)) ∧
      underNamespace base (underNamespace base path role.namespacePath.toList)
          role.namespacePath.toList =
        underNamespace base path role.namespacePath.toList := by
  constructor
  · rw [segments_underNamespace_of_isBase hbase hpath role.cons_namespacePath,
      role.segments_namespacePath]
  · exact underNamespace_again hbase hpath role.cons_namespacePath

/-- The base is spelled like the provider and has a slash at its end, and the path has the namespace
twice: the word in front is the base, so the namespace is not in front of the rest. -/
theorem underNamespace_places_once_base_idir :
    IsBase "/idir/".toList ∧ IsNormal "/idir/cas_admin/idir/cas_admin".toList ∧
      segments (underNamespace "/idir/".toList "/idir/cas_admin/idir/cas_admin".toList
          Role.casAdmin.namespacePath.toList) =
        ["idir".toList, "idir".toList, "cas_admin".toList, "cas_admin".toList, "idir".toList,
          "cas_admin".toList] ∧
      underNamespace "/idir/".toList (underNamespace "/idir/".toList
          "/idir/cas_admin/idir/cas_admin".toList Role.casAdmin.namespacePath.toList)
          Role.casAdmin.namespacePath.toList =
        underNamespace "/idir/".toList "/idir/cas_admin/idir/cas_admin".toList
          Role.casAdmin.namespacePath.toList := by
  have hbase : IsBase "/idir/".toList := by decide
  have hpath : IsNormal "/idir/cas_admin/idir/cas_admin".toList := by decide
  obtain ⟨hsegments, hagain⟩ := underNamespace_places_once .casAdmin hbase hpath
  exact ⟨hbase, hpath, hsegments.trans (by decide), hagain⟩

end Path
end Gatehouse
