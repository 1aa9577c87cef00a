import Gatehouse.Proofs.Path.Joining

/-!
# Starts of paths in normal form

Whoever asks whether a path starts with some text may have the path in normal form at hand only, and
putting a path in normal form can change its start: slashes that meet become one, and the slash at
the end is dropped.  So the start of a path as it was written is not always a start of its normal
form.

* `isTight_of_append` — a start of a path in normal form has no slash too many.
* `isPrefix_normalize_append_iff` — a start is kept just if this holds and, where it ends with a
  slash, a segment follows.
-/

set_option autoImplicit false

namespace Gatehouse
namespace Path

variable {start rest path : List Char} {l : List (List Char)}

/-! ## Starts have no slash too many -/

theorem isTight_nil : IsTight [] :=
  ⟨[], rfl, .inl rfl⟩

theorem isTight_root : IsTight ['/'] :=
  ⟨['/'], rfl, .inr rfl⟩

theorem IsTight.atBoundary (h : IsTight path) : atBoundary path = true := by
  obtain ⟨tail, hpath, htail⟩ := h
  cases hsegments : segments path with
  | nil =>
    rw [hsegments] at hpath
    rcases htail with rfl | rfl <;> rw [hpath] <;> rfl
  | cons s l =>
    rw [hsegments] at hpath
    rw [hpath]
    rfl

/-- A segment in front of a text without a slash too many. -/
theorem IsTight.cons_segment {s : List Char} (h : IsTight path) (hs : s ≠ []) (hfree : '/' ∉ s) :
    IsTight ('/' :: (s ++ path)) := by
  refine h.append h.atBoundary ?_
  rw [segments_of_free hs hfree, List.flatMap_singleton]

/-- **A start of the text of some segments has no slash too many.** -/
theorem isTight_of_append {tail : List Char} (hl : ∀ s ∈ l, s ≠ [] ∧ '/' ∉ s)
    (htail : tail = [] ∨ tail = ['/']) (h : start ++ rest = l.flatMap ('/' :: ·) ++ tail) :
    IsTight start := by
  induction l generalizing start with
  | nil =>
    rw [List.flatMap_nil, List.nil_append] at h
    rcases htail with rfl | rfl
    · rw [(List.append_eq_nil_iff.1 h).1]
      exact isTight_nil
    · rcases List.append_eq_singleton_iff.1 h with ⟨rfl, -⟩ | ⟨rfl, -⟩
      · exact isTight_nil
      · exact isTight_root
  | cons s l ih =>
    obtain ⟨⟨hs, hfree⟩, hl⟩ := List.forall_mem_cons.1 hl
    rw [List.flatMap_cons, List.append_assoc, List.append_eq_append_iff] at h
    rcases h with ⟨more, hsegment, -⟩ | ⟨more, rfl, hmore⟩
    · -- the start ends inside the first segment
      rcases List.cons_eq_append_iff.1 hsegment with ⟨rfl, -⟩ | ⟨front, rfl, hsplit⟩
      · exact isTight_nil
      · by_cases hfront : front = []
        · rw [hfront]
          exact isTight_root
        · have hfront' : '/' ∉ front := fun hc => hfree (hsplit ▸ List.mem_append_left more hc)
          simpa using isTight_nil.cons_segment hfront hfront'
    · exact (ih hl hmore.symm).cons_segment hs hfree

/-! ## Which starts are kept -/

/-- Whether a text is still in front when what it stands in front of is put in normal form with it:
it has no slash too many, and it does not end with a slash, or a segment follows, or it is the
root. -/
def IsKeptBefore (start rest : List Char) : Prop :=
  IsTight start ∧ (start = ['/'] ∨ start.getLast? ≠ some '/' ∨ segments rest ≠ [])

/-- A text that goes on without a slash has its last segment go on. -/
theorem exists_segments_append {s : List Char} (hs : s ≠ []) (hfree : '/' ∉ s) (rest : List Char) :
    ∃ more l, segments (s ++ rest) = (s ++ more) :: l := by
  obtain ⟨piece, pieces, hpieces⟩ :=
    List.exists_cons_of_ne_nil (Text.pieces_ne_nil (· == '/') rest)
  have hsep : ∀ c ∈ s, (c == '/') = false := fun c hc =>
    beq_eq_false_iff_ne.2 fun heq => hfree (heq ▸ hc)
  refine ⟨piece, pieces.filter fun piece => !piece.isEmpty, ?_⟩
  rw [segments, Text.pieces_append_of_free hsep hpieces, List.filter_cons_of_pos]
  rw [Bool.not_eq_true', List.isEmpty_eq_false_iff]
  exact List.append_ne_nil_of_left_ne_nil hs _

/-- The text of some segments, and what the next one starts with, is in front of the text of all. -/
theorem isPrefix_ofSegments (l : List (List Char)) (s t : List Char) (more : List (List Char)) :
    l.flatMap ('/' :: ·) ++ '/' :: s <+: ofSegments (l ++ (s ++ t) :: more) := by
  rw [ofSegments_of_ne (by simp), List.flatMap_append, List.flatMap_cons, List.cons_append,
    List.append_assoc]
  refine (List.prefix_append_right_inj _).2 (List.cons_prefix_cons.2 ⟨rfl, ?_⟩)
  exact List.prefix_append _ _

theorem isPrefix_of_isKeptBefore (hhead : start.head? = some '/') (h : IsKeptBefore start rest) :
    start <+: normalize (start ++ rest) := by
  obtain ⟨⟨tail, hstart, htail⟩, hend⟩ := h
  rcases htail with rfl | rfl
  · -- the last segment of the start may go on
    rw [List.append_nil] at hstart
    have hne : segments start ≠ [] := fun hnone => by
      rw [hstart, hnone] at hhead
      cases hhead
    obtain ⟨init, s, hlast⟩ := (List.eq_nil_or_concat' (segments start)).resolve_left hne
    obtain ⟨hs, hfree⟩ := of_mem_segments (hlast ▸ List.mem_concat_self : s ∈ segments start)
    obtain ⟨more, l, hmore⟩ := exists_segments_append hs hfree rest
    have hinit : segments (init.flatMap ('/' :: ·)) = init :=
      segments_flatMap fun t ht => of_mem_segments (hlast ▸ List.mem_append_left [s] ht)
    have htext : start = init.flatMap ('/' :: ·) ++ '/' :: s := by
      rw [hlast, List.flatMap_append, List.flatMap_singleton] at hstart
      exact hstart
    have hsegments : segments (start ++ rest) = init ++ (s ++ more) :: l := by
      rw [htext, List.append_assoc, List.cons_append, segments_append_cons, hinit, hmore]
    rw [normalize, hsegments, htext]
    exact isPrefix_ofSegments init s more l
  · have hsegments : segments (start ++ rest) = segments start ++ segments rest := by
      conv => lhs; rw [hstart, List.append_assoc, List.singleton_append, segments_append_cons]
      rw [segments_flatMap fun s hs => of_mem_segments hs]
    rw [normalize, hsegments]
    cases hrest : segments rest with
    | nil =>
      have hslash : start.getLast? = some '/' := by
        rw [hstart]
        exact List.getLast?_concat
      have hroot : start = ['/'] := by simpa [hslash, hrest] using hend
      rw [hroot]
      exact List.prefix_rfl
    | cons s more =>
      conv => lhs; rw [hstart]
      exact isPrefix_ofSegments (segments start) [] s more

theorem isKeptBefore_of_isPrefix (hhead : start.head? = some '/')
    (h : start <+: normalize (start ++ rest)) : IsKeptBefore start rest := by
  obtain ⟨more, hmore⟩ := h
  have htight : IsTight start := by
    obtain ⟨tail, hnormal, htail⟩ := isTight_normalize (start ++ rest)
    exact isTight_of_append (fun s hs => of_mem_segments hs) htail (hmore.trans hnormal)
  refine ⟨htight, ?_⟩
  by_contra hend
  simp only [not_or, not_not] at hend
  obtain ⟨hroot, hslash, hnone⟩ := hend
  -- no segment follows, so what is in normal form is the start alone
  have hboundary : Path.atBoundary rest = true := by
    cases rest with
    | nil => rfl
    | cons c rest => exact beq_iff_eq.2 (eq_slash_of_segments_eq_nil hnone c List.mem_cons_self)
  have hnormal : IsNormal (start ++ more) := hmore ▸ isNormal_normalize _
  rw [normalize, segments_append_of_atBoundary start hboundary, hnone, List.append_nil] at hmore
  by_cases hne : segments start = []
  · rw [hne] at hmore
    rcases List.append_eq_singleton_iff.1 hmore with ⟨rfl, -⟩ | ⟨rfl, -⟩
    · cases hhead
    · exact hroot rfl
  · obtain ⟨tail, hstart, -⟩ := htight
    rw [← ofSegments_of_ne hne, ← hmore, List.append_assoc] at hstart
    have hnothing : more ++ tail = [] := List.self_eq_append_right.1 hstart
    rw [(List.append_eq_nil_iff.1 hnothing).1, List.append_nil] at hnormal
    obtain ⟨front, c, rfl, hc⟩ := hnormal.exists_concat hne
    rw [List.getLast?_concat, Option.some.injEq] at hslash
    exact hc hslash

/-- **Which starts of paths are starts of their normal forms.** -/
theorem isPrefix_normalize_append_iff (hhead : start.head? = some '/') (rest : List Char) :
    start <+: normalize (start ++ rest) ↔ IsKeptBefore start rest :=
  ⟨isKeptBefore_of_isPrefix hhead, isPrefix_of_isKeptBefore hhead⟩

end Path
end Gatehouse
