import Mathlib.Data.List.DropRight
import Gatehouse.Proofs.Path.Namespace

/-!
# Slashes at the end

`Path.trimEnd` takes away the slashes at the end of a text and nothing else, so the text keeps its
segments, and also the slashes it has too many in other places.  A path in normal form has no slash
too many.

* `trimEnd_eq_nil_iff` — nothing is left of a text just if it has no segments.
* `IsNormal.exists_concat` — a path in normal form does not end with a slash, unless it is the root.
* `IsNormal.eq_nil_of_append` — nothing follows the segments of a path in normal form.
-/

set_option autoImplicit false

namespace Gatehouse
namespace Path

variable {cs path page rest : List Char}

theorem segments_cons_ne_nil {c : Char} (h : c ≠ '/') (cs : List Char) :
    segments (c :: cs) ≠ [] := by
  rw [segments, Text.pieces, if_neg (by simpa using h)]
  split
  · exact List.cons_ne_nil _ _
  · exact List.cons_ne_nil _ _

/-- A text without segments has nothing but slashes. -/
theorem eq_slash_of_segments_eq_nil (h : segments cs = []) : ∀ c ∈ cs, c = '/' := by
  induction cs with
  | nil => exact fun c hc => absurd hc List.not_mem_nil
  | cons d cs ih =>
    by_cases hd : d = '/'
    · subst hd
      rw [segments_cons_slash] at h
      exact List.forall_mem_cons.2 ⟨rfl, ih h⟩
    · exact absurd h (segments_cons_ne_nil hd cs)

theorem trimEnd_eq_rdropWhile (cs : List Char) : trimEnd cs = cs.rdropWhile (· == '/') := rfl

/-- Nothing is left of a text just if it has no segments. -/
theorem trimEnd_eq_nil_iff : trimEnd cs = [] ↔ segments cs = [] := by
  constructor
  · intro h
    rw [← segments_trimEnd, h, segments_nil]
  · intro h
    rw [trimEnd_eq_rdropWhile, List.rdropWhile_eq_nil_iff]
    exact fun c hc => beq_iff_eq.2 (eq_slash_of_segments_eq_nil h c hc)

/-- Nothing is trimmed where no slash is at the end. -/
theorem trimEnd_of_getLast? (h : cs.getLast? ≠ some '/') : trimEnd cs = cs := by
  rw [trimEnd_eq_rdropWhile, List.rdropWhile_eq_self_iff]
  intro hne hslash
  rw [List.getLast?_eq_some_getLast hne, beq_iff_eq.1 hslash] at h
  exact h rfl

/-- Only slashes are trimmed. -/
theorem mem_trimEnd {c : Char} (hc : c ∈ cs) (hne : c ≠ '/') : c ∈ trimEnd cs := by
  have hsplit : c ∈ cs.rdropWhile (· == '/') ++ cs.rtakeWhile (· == '/') := by
    rwa [List.rdropWhile_append_rtakeWhile]
  refine (List.mem_append.1 hsplit).resolve_right fun hslash => hne ?_
  have htrimmed := List.mem_rtakeWhile_imp hslash
  exact beq_iff_eq.1 htrimmed

theorem normalize_trimEnd (cs : List Char) : normalize (trimEnd cs) = normalize cs := by
  rw [normalize, segments_trimEnd, normalize]

/-- A path in normal form does not end with a slash, unless it is the root. -/
theorem IsNormal.exists_concat (h : IsNormal path) (hne : segments path ≠ []) :
    ∃ front c, path = front ++ [c] ∧ c ≠ '/' := by
  obtain ⟨init, s, hsegments⟩ := (List.eq_nil_or_concat' (segments path)).resolve_left hne
  obtain ⟨hs, hfree⟩ := of_mem_segments (hsegments ▸ List.mem_concat_self : s ∈ segments path)
  obtain ⟨t, c, rfl⟩ := (List.eq_nil_or_concat' s).resolve_left hs
  refine ⟨init.flatMap ('/' :: ·) ++ '/' :: t, c, ?_, fun hc => hfree (hc ▸ List.mem_concat_self)⟩
  conv => lhs; rw [h.eq_flatMap hne, hsegments]
  rw [List.flatMap_append, List.flatMap_singleton, List.append_assoc, List.cons_append]

/-- Nothing follows the segments of a path in normal form. -/
theorem IsNormal.eq_nil_of_append (h : IsNormal (page ++ rest)) (hpage : segments page ≠ [])
    (hrest : segments rest = []) (hboundary : Path.atBoundary rest = true) : rest = [] := by
  have hne : segments (page ++ rest) ≠ [] := by
    rw [segments_append_of_atBoundary page hboundary, hrest, List.append_nil]
    exact hpage
  obtain ⟨front, c, hend, hc⟩ := h.exists_concat hne
  rcases List.eq_nil_or_concat' rest with hnil | ⟨slashes, d, rfl⟩
  · exact hnil
  · have hd : d = '/' := eq_slash_of_segments_eq_nil hrest d List.mem_concat_self
    rw [← List.append_assoc] at hend
    have hlast : d = c := List.singleton_inj.1 (List.append_inj' hend rfl).2
    exact absurd (hlast ▸ hd) hc

end Path
end Gatehouse
