import Gatehouse.Proofs.Text.Pieces
import Gatehouse.Request

/-!
# Paths under a namespace

`Path.underNamespace` puts a path under a base and a namespace, unless it stands there already.  It
works on characters; here it is said what it does to the segments.

* `atBoundary_stripBase` — what is left of a path without its base starts with a slash or is empty,
  so no segment is cut in two.
* `segments_underNamespace` — the segments of the result are those of the base, those of the
  namespace, and some more; and these are the segments of the part below the base, where those of
  the namespace are left out if it is in the namespace already.
* `isTight_underNamespace` — the result is the text of its segments, up to a slash at its end.
* `Request.isNormal_ofPath`, `Request.isNormal_ofUri` — the path of a request is in normal form.
-/

set_option autoImplicit false

namespace Gatehouse
namespace Path

variable {base path rest ns tail : List Char}

/-- A path with one slash in front of each segment and no other. -/
def IsNormal (path : List Char) : Prop :=
  normalize path = path

instance (path : List Char) : Decidable (IsNormal path) :=
  inferInstanceAs (Decidable (normalize path = path))

theorem isNormal_normalize (cs : List Char) : IsNormal (normalize cs) :=
  normalize_normalize cs

theorem atBoundary_ofSegments (pieces : List (List Char)) :
    atBoundary (ofSegments pieces) = true := by
  cases pieces with
  | nil => rfl
  | cons piece pieces => rfl

theorem IsNormal.head? (h : IsNormal path) : path.head? = some '/' := by
  rw [← h, normalize, ofSegments]
  cases segments path with
  | nil => rfl
  | cons piece pieces => rfl

theorem IsNormal.atBoundary (h : IsNormal path) : atBoundary path = true := by
  rw [← h, normalize]
  exact atBoundary_ofSegments _

/-- A text that ends at a segment boundary adds its segments. -/
theorem segments_append_of_atBoundary (front : List Char) (h : atBoundary rest = true) :
    segments (front ++ rest) = segments front ++ segments rest := by
  cases rest with
  | nil => rw [List.append_nil, segments_nil, List.append_nil]
  | cons c rest =>
    obtain rfl : c = '/' := by simpa [atBoundary] using h
    rw [segments_append_cons, segments_cons_slash]

theorem atBoundary_stripBase (h : atBoundary path = true) :
    atBoundary (stripBase base path) = true := by
  unfold stripBase
  split
  · split
    · next hrest => exact hrest
    · exact h
  · exact h

theorem segments_of_hasNamespace (h : hasNamespace rest ns = true) :
    ∃ part, segments rest = segments ns ++ part := by
  unfold hasNamespace at h
  split at h
  · next tail htail =>
    refine ⟨segments tail, ?_⟩
    rw [← segments_trimStart rest, eq_append_of_afterStart? htail,
      segments_append_of_atBoundary ns h]
  · cases h

theorem underNamespace_eq_join (base path ns : List Char) :
    underNamespace base path ns =
      join base (if hasNamespace (stripBase base path) ns then stripBase base path
        else ns ++ stripBase base path) :=
  (apply_ite (join base) _ _ _).symm

/-- **What putting a path under a namespace does to its segments.** -/
theorem segments_underNamespace (base ns : List Char) (h : atBoundary path = true) :
    ∃ part, segments (underNamespace base path ns) = segments base ++ segments ns ++ part ∧
      segments (stripBase base path) =
        (if hasNamespace (stripBase base path) ns then segments ns else []) ++ part := by
  rw [underNamespace_eq_join]
  cases hns : hasNamespace (stripBase base path) ns with
  | true =>
    obtain ⟨part, hpart⟩ := segments_of_hasNamespace hns
    refine ⟨part, ?_, hpart⟩
    rw [if_pos rfl, segments_join, hpart, List.append_assoc]
  | false =>
    refine ⟨segments (stripBase base path), ?_, rfl⟩
    rw [if_neg Bool.false_ne_true, segments_join,
      segments_append_of_atBoundary ns (atBoundary_stripBase h), List.append_assoc]

/-! ## Texts and segments -/

/-- A text is its pieces, the empty ones too, with a slash in front of each. -/
theorem flatMap_pieces (cs : List Char) :
    (Text.pieces (· == '/') cs).flatMap ('/' :: ·) = '/' :: cs := by
  induction cs with
  | nil => rfl
  | cons c cs ih =>
    by_cases hc : c = '/'
    · subst hc
      rw [Text.pieces_cons_sep rfl, List.flatMap_cons, ih]
      rfl
    · obtain ⟨piece, pieces, hpieces⟩ :=
        List.exists_cons_of_ne_nil (Text.pieces_ne_nil (· == '/') cs)
      rw [hpieces, List.flatMap_cons, List.cons_append] at ih
      rw [Text.pieces_cons_of_not_sep (by simpa using hc) hpieces, List.flatMap_cons,
        List.cons_append, List.cons_append, (List.cons.inj ih).2]

/-- Every character but the slashes is in a segment. -/
theorem exists_segment_of_mem {cs : List Char} {c : Char} (h : c ∈ cs) (hslash : c ≠ '/') :
    ∃ s ∈ segments cs, c ∈ s := by
  have htext : c ∈ (Text.pieces (· == '/') cs).flatMap ('/' :: ·) := by
    rw [flatMap_pieces]
    exact List.mem_cons_of_mem _ h
  obtain ⟨piece, hpiece, hc⟩ := List.mem_flatMap.1 htext
  have hmem : c ∈ piece := (List.mem_cons.1 hc).resolve_left hslash
  refine ⟨piece, List.mem_filter.2 ⟨hpiece, ?_⟩, hmem⟩
  rw [Bool.not_eq_true', List.isEmpty_eq_false_iff]
  exact List.ne_nil_of_mem hmem

/-- A path that is the text of its segments, up to a slash at its end. -/
def IsTight (path : List Char) : Prop :=
  ∃ tail, path = (segments path).flatMap ('/' :: ·) ++ tail ∧ (tail = [] ∨ tail = ['/'])

theorem isTight_ofSegments {pieces : List (List Char)} (h : ∀ s ∈ pieces, s ≠ [] ∧ '/' ∉ s) :
    IsTight (ofSegments pieces) := by
  unfold IsTight
  rw [segments_ofSegments h]
  cases pieces with
  | nil => exact ⟨['/'], rfl, Or.inr rfl⟩
  | cons piece pieces => exact ⟨[], (List.append_nil _).symm, Or.inl rfl⟩

theorem isTight_normalize (cs : List Char) : IsTight (normalize cs) :=
  isTight_ofSegments fun _ => of_mem_segments

theorem IsNormal.isTight (h : IsNormal path) : IsTight path :=
  h ▸ isTight_normalize path

theorem ofSegments_of_ne {pieces : List (List Char)} (h : pieces ≠ []) :
    ofSegments pieces = pieces.flatMap ('/' :: ·) := by
  rw [ofSegments, if_neg (by simpa using h)]

/-- A path in normal form is the text of its segments, unless it has none. -/
theorem IsNormal.eq_flatMap (h : IsNormal path) (hne : segments path ≠ []) :
    path = (segments path).flatMap ('/' :: ·) := by
  rw [← ofSegments_of_ne hne]
  exact h.symm

theorem IsTight.head? (h : IsTight path) (hne : segments path ≠ []) : path.head? = some '/' := by
  obtain ⟨tail, hpath, -⟩ := h
  obtain ⟨s, l, hcons⟩ := List.exists_cons_of_ne_nil hne
  rw [hpath, hcons]
  rfl

/-- A character of such a path is a slash, or one of a segment. -/
theorem IsTight.of_mem (h : IsTight path) {c : Char} (hc : c ∈ path) :
    c = '/' ∨ ∃ s ∈ segments path, c ∈ s := by
  obtain ⟨tail, hpath, htail⟩ := h
  rw [hpath] at hc
  rcases List.mem_append.1 hc with hc | hc
  · obtain ⟨s, hs, hc⟩ := List.mem_flatMap.1 hc
    rcases List.mem_cons.1 hc with hc | hc
    · exact Or.inl hc
    · exact Or.inr ⟨s, hs, hc⟩
  · rcases htail with rfl | rfl
    · cases hc
    · exact Or.inl (List.mem_singleton.1 hc)

theorem trimStart_of_ne {c : Char} (h : c ≠ '/') (cs : List Char) : trimStart (c :: cs) = c :: cs :=
  List.dropWhile_cons_of_neg (by simpa using h)

theorem trimStart_cons_slash (cs : List Char) : trimStart ('/' :: cs) = trimStart cs :=
  List.dropWhile_cons_of_pos rfl

/-- In a path in normal form one slash stands in front of the rest. -/
theorem IsNormal.cons_trimStart (h : IsNormal path) : '/' :: trimStart path = path := by
  rw [← h, normalize]
  cases hsegments : segments path with
  | nil => rfl
  | cons s l =>
    obtain ⟨hne, hfree⟩ := of_mem_segments (hsegments ▸ List.mem_cons_self : s ∈ segments path)
    obtain ⟨c, s, rfl⟩ := List.exists_cons_of_ne_nil hne
    have hc : c ≠ '/' := fun heq => hfree (heq ▸ List.mem_cons_self)
    show '/' :: trimStart ('/' :: c :: _) = '/' :: c :: _
    rw [trimStart_cons_slash, trimStart_of_ne hc]

theorem stripBase_of_root (h : trimEnd base = []) (hpath : atBoundary path = true) :
    stripBase base path = path := by
  simp [stripBase, h, afterStart?, hpath]

/-- A namespace in front of a path is in front of its segments. -/
theorem IsTight.append (h : IsTight path) (hboundary : atBoundary path = true)
    (hns : '/' :: ns = (segments ns).flatMap ('/' :: ·)) : IsTight ('/' :: (ns ++ path)) := by
  obtain ⟨tail, hpath, htail⟩ := h
  refine ⟨tail, ?_, htail⟩
  rw [segments_cons_slash, segments_append_of_atBoundary ns hboundary, List.flatMap_append, ← hns,
    List.append_assoc, ← hpath, List.cons_append]

theorem join_of_root (h : trimEnd base = []) (rest : List Char) :
    join base rest = '/' :: trimStart rest := by
  rw [join, h]
  rfl

theorem isTight_join_of_ne (h : trimEnd base ≠ []) (rest : List Char) :
    IsTight (join base rest) := by
  simp only [join, List.isEmpty_eq_false_iff.2 h, Bool.false_eq_true, if_false]
  split
  · exact isTight_normalize _
  · exact isTight_normalize _

/-- What is put under a namespace is the text of its segments. -/
theorem isTight_underNamespace (base : List Char) (hpath : IsNormal path)
    (hns : '/' :: ns = (segments ns).flatMap ('/' :: ·)) (hhead : ns.head? ≠ some '/')
    (hne : ns ≠ []) :
    IsTight (underNamespace base path ns) := by
  rw [underNamespace_eq_join]
  by_cases hroot : trimEnd base = []
  · rw [join_of_root hroot, stripBase_of_root hroot hpath.atBoundary]
    split
    · rw [hpath.cons_trimStart]
      exact hpath.isTight
    · obtain ⟨c, ns, rfl⟩ := List.exists_cons_of_ne_nil hne
      rw [List.cons_append, trimStart_of_ne fun heq => hhead (by rw [heq]; rfl)]
      exact hpath.isTight.append hpath.atBoundary hns
  · exact isTight_join_of_ne hroot _

theorem mem_of_mem_stripBase {c : Char} (h : c ∈ stripBase base path) : c ∈ path := by
  unfold stripBase at h
  split at h
  · next rest hrest =>
    split at h
    · rw [eq_append_of_afterStart? hrest]
      exact List.mem_append_right _ h
    · exact h
  · exact h

end Path

namespace Request

theorem isNormal_ofPath (path : String) (headers : Headers) :
    Path.IsNormal (ofPath path headers).path.toList := by
  show Path.IsNormal (String.ofList (Path.normalize path.toList)).toList
  rw [String.toList_ofList]
  exact Path.isNormal_normalize _

theorem path_ofPath_of_isNormal {path : String} (h : Path.IsNormal path.toList)
    (headers : Headers) :
    (ofPath path headers).path = path := by
  show String.ofList (Path.normalize path.toList) = path
  rw [h, String.ofList_toList]

theorem isNormal_ofUri (uri : Http.Uri) (headers : Headers) :
    Path.IsNormal (ofUri uri headers).path.toList :=
  isNormal_ofPath uri.path headers

end Request
end Gatehouse
