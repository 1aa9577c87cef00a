import Gatehouse.Proofs.Path.Joining

/-!
# Prefixes of texts and prefixes of segments

`Path.stripBase` and `Path.hasNamespace` compare characters and then look at the one that comes
next.  What they are meant to say is about segments: whether a path stands below a base, and whether
the rest stands below a namespace.  For a path in normal form the two come to the same.

The base need not be in normal form: it may have slashes at its end, and the root may be left out
altogether.  `IsBase` says this.

* `below` — the segments of a path below some others; all of them if it does not stand below these.
* `segments_stripBase` — taking the base away leaves the segments below those of the base.
* `hasNamespace_stripBase_iff` — the rest is in a namespace just if its segments start with those of
  the namespace.
-/

set_option autoImplicit false

namespace Gatehouse
namespace Path

variable {base path rest ns : List Char} {front whole more : List (List Char)}

/-! ## What follows a start -/

theorem afterStart?_append (start rest : List Char) :
    afterStart? start (start ++ rest) = some rest := by
  induction start with
  | nil => rfl
  | cons c start ih => rw [List.cons_append, afterStart?, if_pos rfl, ih]

/-! ## Segments below other segments -/

/-- The segments of a path below some others, or all of them if it does not stand below these. -/
def below (front whole : List (List Char)) : List (List Char) :=
  if front <+: whole then whole.drop front.length else whole

@[simp] theorem below_append (front more : List (List Char)) :
    below front (front ++ more) = more := by
  rw [below, if_pos (List.prefix_append front more), List.drop_left]

theorem below_of_outside (h : ¬ front <+: whole) : below front whole = whole :=
  if_neg h

/-! ## Bases -/

/-- A base as it is configured: the text of its segments, up to slashes at its end. -/
def IsBase (base : List Char) : Prop :=
  trimEnd base = (segments base).flatMap ('/' :: ·)

instance (base : List Char) : Decidable (IsBase base) :=
  inferInstanceAs (Decidable (trimEnd base = (segments base).flatMap ('/' :: ·)))

/-- A path in normal form is a base. -/
theorem IsNormal.isBase (h : IsNormal base) : IsBase base := by
  unfold IsBase
  by_cases hne : segments base = []
  · rw [trimEnd_eq_nil_iff.2 hne, hne, List.flatMap_nil]
  · obtain ⟨front, c, hend, hc⟩ := h.exists_concat hne
    have hlast : base.getLast? ≠ some '/' := by
      rw [hend, List.getLast?_concat]
      exact fun hslash => hc (Option.some.inj hslash)
    rw [trimEnd_of_getLast? hlast]
    exact h.eq_flatMap hne

/-- A path whose segments start with those of a base starts with the text of the base. -/
theorem IsBase.eq_append (hbase : IsBase base) (hpath : IsNormal path) (hne : segments base ≠ [])
    (h : segments path = segments base ++ more) :
    path = trimEnd base ++ more.flatMap ('/' :: ·) := by
  have hsome : segments path ≠ [] := by simp [h, hne]
  rw [hbase, ← List.flatMap_append, ← h]
  exact hpath.eq_flatMap hsome

/-! ## Taking the base away -/

/-- A path that does not stand below the base is left as it is. -/
theorem stripBase_of_outside (h : ¬ segments base <+: segments path) :
    stripBase base path = path := by
  unfold stripBase
  split
  · next rest hrest =>
    split
    · next hboundary =>
      refine absurd ?_ h
      rw [eq_append_of_afterStart? hrest, segments_append_of_atBoundary _ hboundary,
        segments_trimEnd]
      exact List.prefix_append _ _
    · rfl
  · rfl

/-- Of a path below the base the text of the other segments is left. -/
theorem stripBase_of_inside (hbase : IsBase base) (hpath : IsNormal path)
    (hne : segments base ≠ []) (h : segments path = segments base ++ more) :
    stripBase base path = more.flatMap ('/' :: ·) := by
  conv => lhs; rw [hbase.eq_append hpath hne h, stripBase, afterStart?_append]
  exact if_pos (atBoundary_flatMap more)

/-- **Taking the base away leaves the segments below those of the base.** -/
theorem segments_stripBase (hbase : IsBase base) (hpath : IsNormal path) :
    segments (stripBase base path) = below (segments base) (segments path) := by
  by_cases hroot : segments base = []
  · rw [stripBase_of_root (trimEnd_eq_nil_iff.2 hroot) hpath.atBoundary, hroot]
    exact (below_append [] (segments path)).symm
  by_cases hinside : segments base <+: segments path
  · obtain ⟨more, hmore⟩ := hinside
    rw [stripBase_of_inside hbase hpath hroot hmore.symm, ← hmore, below_append]
    refine segments_flatMap fun s hs => ?_
    have hmem : s ∈ segments path := hmore ▸ List.mem_append_right _ hs
    exact of_mem_segments hmem
  · rw [stripBase_of_outside hinside, below_of_outside hinside]

/-! ## Standing in a namespace -/

/-- What is left of a path has a slash in front of each segment and no other, up to one at its
end. -/
theorem isTight_stripBase (hbase : IsBase base) (hpath : IsNormal path) :
    IsTight (stripBase base path) := by
  by_cases hroot : segments base = []
  · rw [stripBase_of_root (trimEnd_eq_nil_iff.2 hroot) hpath.atBoundary]
    exact hpath.isTight
  by_cases hinside : segments base <+: segments path
  · obtain ⟨more, hmore⟩ := hinside
    have hsegments := segments_stripBase hbase hpath
    rw [← hmore, below_append] at hsegments
    refine ⟨[], ?_, Or.inl rfl⟩
    rw [hsegments, List.append_nil]
    exact stripBase_of_inside hbase hpath hroot hmore.symm
  · rw [stripBase_of_outside hinside]
    exact hpath.isTight

/-- A text that is its segments with slashes between them starts with the first of them. -/
theorem exists_cons_of_text (hns : '/' :: ns = (segments ns).flatMap ('/' :: ·)) :
    ∃ c cs, ns = c :: cs ∧ c ≠ '/' := by
  cases hsegments : segments ns with
  | nil =>
    rw [hsegments] at hns
    cases hns
  | cons s l =>
    obtain ⟨hne, hfree⟩ := of_mem_segments (hsegments ▸ List.mem_cons_self : s ∈ segments ns)
    obtain ⟨c, s, rfl⟩ := List.exists_cons_of_ne_nil hne
    rw [hsegments, List.flatMap_cons, List.cons_append, List.cons_append] at hns
    exact ⟨c, _, (List.cons.inj hns).2, fun hc => hfree (hc ▸ List.mem_cons_self)⟩

theorem trimStart_append_of_text (hns : '/' :: ns = (segments ns).flatMap ('/' :: ·))
    (rest : List Char) : trimStart (ns ++ rest) = ns ++ rest := by
  obtain ⟨c, cs, rfl, hc⟩ := exists_cons_of_text hns
  exact trimStart_of_ne hc _

/-- In a text without a slash too many, a namespace is in front just if its segments are. -/
theorem IsTight.hasNamespace_iff (h : IsTight rest)
    (hns : '/' :: ns = (segments ns).flatMap ('/' :: ·)) :
    hasNamespace rest ns = true ↔ segments ns <+: segments rest := by
  constructor
  · intro hin
    obtain ⟨part, hpart⟩ := segments_of_hasNamespace hin
    exact ⟨part, hpart.symm⟩
  · rintro ⟨part, hpart⟩
    obtain ⟨tail, hrest, htail⟩ := h
    rw [← hpart, List.flatMap_append, ← hns, List.append_assoc, List.cons_append] at hrest
    have hboundary : atBoundary (part.flatMap ('/' :: ·) ++ tail) = true := by
      cases part with
      | nil => rcases htail with rfl | rfl <;> rfl
      | cons s part => rfl
    rw [hasNamespace, hrest, trimStart_cons_slash, trimStart_append_of_text hns,
      afterStart?_append]
    exact hboundary

/-- **What is left of a path is in a namespace just if its segments start with those of the
namespace.** -/
theorem hasNamespace_stripBase_iff (hbase : IsBase base) (hpath : IsNormal path)
    (hns : '/' :: ns = (segments ns).flatMap ('/' :: ·)) :
    hasNamespace (stripBase base path) ns = true ↔
      segments ns <+: below (segments base) (segments path) := by
  rw [← segments_stripBase hbase hpath]
  exact (isTight_stripBase hbase hpath).hasNamespace_iff hns

end Path
end Gatehouse
