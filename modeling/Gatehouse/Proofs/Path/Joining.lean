import Gatehouse.Proofs.Path.Trimming

/-!
# Pages below a base

`Path.join` puts a page below a base, and cares about the slashes where the two meet.  For a base in
normal form there is not much to care about: what stands in front of the page is the base as it is,
or nothing if the base is the root.

* `join_of_ne` — below a base that is not the root, the segments decide everything.
* `join_nil_eq_normalize`, `IsNormal.join_nil` — the page without a name is the base in normal form.
* `exists_join_append` — a page in normal form follows the base as it is, and if more follows the
  page, its segments follow.
-/

set_option autoImplicit false

namespace Gatehouse
namespace Path

variable {base page rest : List Char}

/-- A path in normal form without segments is the root. -/
theorem IsNormal.eq_root (h : IsNormal base) (hnone : segments base = []) : base = ['/'] := by
  rw [← h, normalize, hnone]
  rfl

/-- What is put below a base that is not the root is in normal form. -/
theorem isNormal_join_of_ne (h : trimEnd base ≠ []) (rest : List Char) :
    IsNormal (join base rest) := by
  simp only [join, List.isEmpty_eq_false_iff.2 h, Bool.false_eq_true, if_false]
  split
  · exact isNormal_normalize _
  · exact isNormal_normalize _

/-- Below a base that is not the root the segments decide everything. -/
theorem join_of_ne (h : trimEnd base ≠ []) (rest : List Char) :
    join base rest = ofSegments (segments base ++ segments rest) := by
  rw [← segments_join]
  exact (isNormal_join_of_ne h rest).symm

/-- The page without a name is the base in normal form. -/
theorem join_nil_eq_normalize (base : List Char) : join base [] = normalize base := by
  by_cases hroot : trimEnd base = []
  · rw [join_of_root hroot, normalize, trimEnd_eq_nil_iff.1 hroot]
    rfl
  · rw [join_of_ne hroot, segments_nil, List.append_nil, normalize]

/-- The page without a name is the base itself. -/
theorem IsNormal.join_nil (h : IsNormal base) : join base [] = base :=
  (join_nil_eq_normalize base).trans h

/-- A page in normal form has a slash and then a segment. -/
theorem IsNormal.exists_cons (h : IsNormal page) (hne : segments page ≠ []) :
    ∃ c cs, page = '/' :: c :: cs ∧ c ≠ '/' := by
  obtain ⟨s, l, hsegments⟩ := List.exists_cons_of_ne_nil hne
  obtain ⟨hs, hfree⟩ := of_mem_segments (hsegments ▸ List.mem_cons_self : s ∈ segments page)
  obtain ⟨c, s, rfl⟩ := List.exists_cons_of_ne_nil hs
  have hc : c ≠ '/' := fun heq => hfree (heq ▸ List.mem_cons_self)
  have hpage := h.eq_flatMap hne
  rw [hsegments] at hpage
  exact ⟨c, _, hpage, hc⟩

theorem atBoundary_flatMap (l : List (List Char)) : atBoundary (l.flatMap ('/' :: ·)) = true := by
  cases l with
  | nil => rfl
  | cons s l => rfl

/-- **A page in normal form follows the base as it is,** and after it stand the segments of what
follows. -/
theorem exists_join_append (base : List Char) (hpage : IsNormal page) (hne : segments page ≠ [])
    (hrest : atBoundary rest = true) :
    ∃ tail, join base (page ++ rest) = (segments base).flatMap ('/' :: ·) ++ page ++ tail ∧
      segments tail = segments rest ∧ atBoundary tail = true ∧ (rest = [] → tail = []) := by
  by_cases hroot : trimEnd base = []
  · obtain ⟨c, cs, rfl, hc⟩ := hpage.exists_cons hne
    refine ⟨rest, ?_, rfl, hrest, id⟩
    rw [join_of_root hroot, trimEnd_eq_nil_iff.1 hroot, List.cons_append, trimStart_cons_slash,
      List.cons_append, trimStart_of_ne hc]
    rfl
  · refine ⟨(segments rest).flatMap ('/' :: ·), ?_, ?_, atBoundary_flatMap _, ?_⟩
    · have hall : segments base ++ (segments page ++ segments rest) ≠ [] := by simp [hne]
      rw [join_of_ne hroot, segments_append_of_atBoundary page hrest, ofSegments_of_ne hall,
        List.flatMap_append, List.flatMap_append, ← hpage.eq_flatMap hne, List.append_assoc]
    · exact segments_flatMap fun _ hs => of_mem_segments hs
    · rintro rfl
      rfl

end Path
end Gatehouse
