import Mathlib.Data.List.Flatten
import Mathlib.Tactic.TFAE
import Gatehouse.Proofs.Path.Prefixes

/-!
# Canonical paths

Many texts have the same segments, and one of them stands for all: it starts with a slash, no two
slashes meet in it, and it does not end with one unless it is the root.  That is the path in normal
form, told by its slashes and without looking for segments.

`Path.join` keeps the segments of what it joins, and brings what it puts below a base in normal
form.  Below the root it does not: there the rest stays as it is, but for the slashes in front.

* `isBase_iff` — a base is the text of its segments just if it has no doubled slash before its end.
* `isCanonical_iff` — canonical paths are those in normal form.
* `join_canonical` — when the result of joining is canonical, and what becomes of it if it is joined
  with nothing.
* `join_keeps_slashes` — a rest below the root that keeps the slashes it has too many.
-/

set_option autoImplicit false

namespace Gatehouse
namespace Path

variable {base path cs : List Char}

/-! ## Doubled slashes -/

/-- Whether a text has two slashes in a row; those at its end do not count. -/
def HasDoubledSlash (base : List Char) : Prop :=
  ['/', '/'] <:+: trimEnd base

instance (base : List Char) : Decidable (HasDoubledSlash base) :=
  inferInstanceAs (Decidable (['/', '/'] <:+: trimEnd base))

/-- The text of the segments is no longer than a path they were read from. -/
theorem length_segments_le (h : cs.head? = some '/') :
    ((segments cs).flatMap ('/' :: ·)).length ≤ cs.length := by
  obtain ⟨tail, rfl⟩ := List.head?_eq_some_iff.1 h
  rw [segments_cons_slash, ← flatMap_pieces tail]
  exact (List.filter_sublist.flatMap _).length_le

theorem head?_trimEnd (h : base.head? = some '/') (hne : trimEnd base ≠ []) :
    (trimEnd base).head? = some '/' := by
  obtain ⟨tail, htail⟩ : trimEnd base <+: base := List.rdropWhile_prefix _ base
  obtain ⟨c, cs, hcons⟩ := List.exists_cons_of_ne_nil hne
  rw [← htail, hcons] at h
  rw [hcons]
  exact h

/-- What is trimmed does not end with a slash. -/
theorem trimEnd_ne_concat (base front : List Char) : trimEnd base ≠ front ++ ['/'] := by
  intro h
  have hne : base.rdropWhile (· == '/') ≠ [] := by
    rw [← trimEnd_eq_rdropWhile, h]
    exact List.concat_ne_nil _ _
  have hlast := List.rdropWhile_last_not (· == '/') base hne
  simp only [← trimEnd_eq_rdropWhile, h] at hlast
  exact hlast (by rw [List.getLast_concat]; rfl)

/-- **A base is the text of its segments just if it has no doubled slash before its end.** -/
theorem isBase_iff (h : base.head? = some '/') : IsBase base ↔ ¬ HasDoubledSlash base := by
  constructor
  · rintro hbase ⟨front, behind, hdoubled⟩
    -- one of the two slashes could be left out, and the text of the segments would be too long
    have hsplit : trimEnd base = front ++ '/' :: '/' :: behind := by
      rw [← hdoubled, List.append_assoc]
      rfl
    have hhead := head?_trimEnd h (by simp [hsplit])
    have hshorter : (front ++ '/' :: behind).head? = some '/' := by
      cases front with
      | nil => rfl
      | cons c front =>
        rw [hsplit] at hhead
        exact hhead
    have hsegments : segments base = segments (front ++ '/' :: behind) := by
      rw [← segments_trimEnd, hsplit, segments_append_cons, segments_append_cons,
        segments_cons_slash]
    have hlength := length_segments_le hshorter
    rw [← hsegments, ← hbase, hsplit, List.length_append, List.length_append] at hlength
    simp only [List.length_cons] at hlength
    omega
  · intro hsingle
    by_cases hroot : trimEnd base = []
    · rw [IsBase, hroot, trimEnd_eq_nil_iff.1 hroot]
      rfl
    obtain ⟨tail, htail⟩ := List.head?_eq_some_iff.1 (head?_trimEnd h hroot)
    -- an empty piece would stand between two slashes, or behind the last one
    have hfull : ∀ piece ∈ Text.pieces (· == '/') tail, (!piece.isEmpty) = true := by
      intro piece hpiece
      rw [Bool.not_eq_true', List.isEmpty_eq_false_iff]
      rintro rfl
      obtain ⟨init, pieces, hpieces⟩ := List.append_of_mem hpiece
      have htext := flatMap_pieces tail
      rw [hpieces, List.flatMap_append, List.flatMap_cons, ← htail] at htext
      cases pieces with
      | nil => exact trimEnd_ne_concat base _ htext.symm
      | cons next pieces =>
        refine hsingle ⟨init.flatMap ('/' :: ·), next ++ pieces.flatMap ('/' :: ·), ?_⟩
        rw [← htext, List.flatMap_cons, List.append_assoc]
        rfl
    rw [IsBase, ← segments_trimEnd, htail, segments_cons_slash, segments,
      List.filter_eq_self.2 hfull, flatMap_pieces]

/-- In a path in normal form there are no two slashes in a row. -/
theorem IsNormal.not_doubled (h : IsNormal path) : ¬ ['/', '/'] <:+: path := by
  by_cases hroot : segments path = []
  · rw [h.eq_root hroot]
    decide
  · have hbase := (isBase_iff h.head?).1 h.isBase
    rwa [HasDoubledSlash, h.isBase, ← h.eq_flatMap hroot] at hbase

/-! ## Canonical paths -/

/-- A path as it should be written. -/
structure IsCanonical (path : List Char) : Prop where
  /-- It starts with a slash. -/
  head? : path.head? = some '/'
  /-- No segment is empty, so no two slashes meet. -/
  single : ¬ ['/', '/'] <:+: path
  /-- Only the root ends with a slash. -/
  getLast? : path.getLast? = some '/' → path = ['/']

/-- **Canonical paths are those in normal form.** -/
theorem isCanonical_iff : IsCanonical path ↔ IsNormal path := by
  constructor
  · intro h
    by_cases hroot : path = ['/']
    · rw [hroot]
      rfl
    have htrim : trimEnd path = path := trimEnd_of_getLast? fun hslash => hroot (h.getLast? hslash)
    have hsingle : ¬ HasDoubledSlash path := by
      rw [HasDoubledSlash, htrim]
      exact h.single
    have hbase : IsBase path := (isBase_iff h.head?).2 hsingle
    have hne : segments path ≠ [] := by
      rw [ne_eq, ← trimEnd_eq_nil_iff, htrim]
      rintro rfl
      cases h.head?
    rw [IsNormal, normalize, ofSegments_of_ne hne, ← hbase, htrim]
  · intro h
    refine ⟨h.head?, h.not_doubled, fun hslash => ?_⟩
    by_contra hroot
    obtain ⟨front, c, rfl, hc⟩ := h.exists_concat fun hnone => hroot (h.eq_root hnone)
    rw [List.getLast?_concat] at hslash
    exact hc (Option.some.inj hslash)

/-! ## Joining -/

/-- A text without the slashes it starts with does not start with one. -/
theorem head?_trimStart_ne (cs : List Char) : (trimStart cs).head? ≠ some '/' := by
  intro h
  have hhead := List.head?_dropWhile_not (· == '/') cs
  rw [show cs.dropWhile (· == '/') = trimStart cs from rfl, h] at hhead
  exact absurd hhead (by decide)

/-- A slash in front of a text that does not start with one is canonical unless the text has a slash
too many. -/
theorem isCanonical_cons_iff (hhead : cs.head? ≠ some '/') :
    IsCanonical ('/' :: cs) ↔ ¬ ['/', '/'] <:+: cs ∧ cs.getLast? ≠ some '/' := by
  cases cs with
  | nil => exact iff_of_true ⟨rfl, by decide, fun _ => rfl⟩ ⟨by decide, by decide⟩
  | cons c cs =>
    have hc : c ≠ '/' := fun heq => hhead (congrArg some heq)
    have hdoubled : ['/', '/'] <:+: '/' :: c :: cs ↔ ['/', '/'] <:+: c :: cs := by
      rw [List.infix_cons_iff, or_iff_right]
      rintro ⟨tail, htail⟩
      exact hc (List.cons.inj (List.cons.inj htail).2).1.symm
    have hlast : ('/' :: c :: cs).getLast? = (c :: cs).getLast? := List.getLast?_cons_cons
    constructor
    · intro h
      refine ⟨hdoubled.not.1 h.single, fun hslash => ?_⟩
      cases h.getLast? (hlast.trans hslash)
    · rintro ⟨hsingle, hend⟩
      exact ⟨rfl, hdoubled.not.2 hsingle, fun hslash => absurd (hlast.symm.trans hslash) hend⟩

/-- What is put below a base is canonical just if the base is not the root, or the rest, behind the
slashes it starts with, has no slash too many. -/
theorem isCanonical_join_iff (base rest : List Char) :
    IsCanonical (join base rest) ↔
      segments base ≠ [] ∨
        ¬ ['/', '/'] <:+: trimStart rest ∧ (trimStart rest).getLast? ≠ some '/' := by
  by_cases hroot : segments base = []
  · rw [join_of_root (trimEnd_eq_nil_iff.2 hroot), or_iff_right (not_not_intro hroot)]
    exact isCanonical_cons_iff (head?_trimStart_ne rest)
  · refine iff_of_true (isCanonical_iff.2 ?_) (Or.inl hroot)
    exact isNormal_join_of_ne (fun h => hroot (trimEnd_eq_nil_iff.1 h)) rest

/-- **When joining gives the canonical path** with the segments of the base and then those of the
rest.  The segments are always these, and joining once more, with nothing, always gives that path;
but what is joined is that path just if the base is not the root, or the rest, behind the slashes it
starts with, has neither two slashes in a row nor one at its end. -/
theorem join_canonical (base rest : List Char) :
    segments (join base rest) = segments base ++ segments rest ∧
      join (join base rest) [] = ofSegments (segments base ++ segments rest) ∧
      [join base rest = ofSegments (segments base ++ segments rest),
        IsCanonical (join base rest),
        join (join base rest) [] = join base rest,
        segments base ≠ [] ∨
          ¬ ['/', '/'] <:+: trimStart rest ∧ (trimStart rest).getLast? ≠ some '/'].TFAE := by
  have hagain : join (join base rest) [] = ofSegments (segments base ++ segments rest) := by
    rw [join_nil_eq_normalize, normalize, segments_join]
  refine ⟨segments_join base rest, hagain, ?_⟩
  tfae_have 1 ↔ 2 := by
    rw [← segments_join]
    exact eq_comm.trans isCanonical_iff.symm
  tfae_have 3 ↔ 1 := by
    rw [hagain, eq_comm]
  tfae_have 2 ↔ 4 := isCanonical_join_iff base rest
  tfae_finish

/-- Below the root the slashes inside of a rest and at its end are kept. -/
theorem join_keeps_slashes :
    join [] "//contacts//7/".toList = "/contacts//7/".toList ∧
      ofSegments (segments [] ++ segments "//contacts//7/".toList) = "/contacts/7".toList ∧
      ¬ IsCanonical (join [] "//contacts//7/".toList) ∧
      join (join [] "//contacts//7/".toList) [] = "/contacts/7".toList := by
  have hjoin : join [] "//contacts//7/".toList = "/contacts//7/".toList := by decide
  refine ⟨hjoin, by decide, fun h => ?_, by decide⟩
  rw [hjoin] at h
  exact absurd (h.getLast? (by decide)) (by decide)

end Path
end Gatehouse
