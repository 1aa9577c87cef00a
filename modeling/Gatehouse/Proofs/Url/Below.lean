import Gatehouse.Proofs.Gateway.Wire
import Gatehouse.Proofs.Path.Trimming
import Gatehouse.Proofs.Text.Pieces

/-!
# Paths behind paths

A path that is put behind another as text is read together with it: the pieces of both are walked
through one after the other.  If the second has neither steps nor characters that are written
otherwise, it is there in the end as it was, behind what the first has come to.

* `render_append` — what is written of a path behind another.
* `trimEnd_render` — slashes that are put behind a path are there in the end, and no others.
* `trimEnd_spell_iff` — what is written of some segments ends with a slash just if the last is
  empty.
-/

set_option autoImplicit false

namespace Gatehouse
namespace Url

/-! ## Plain paths -/

/-- A path in normal form that is read and written as it stands. -/
structure IsPlainPath (path : List Char) : Prop where
  normal : Gatehouse.Path.IsNormal path
  plain : ∀ s ∈ Gatehouse.Path.segments path, IsPlainSegment s

instance (path : List Char) : Decidable (IsPlainPath path) :=
  decidable_of_iff
    (Gatehouse.Path.IsNormal path ∧ ∀ s ∈ Gatehouse.Path.segments path, IsPlainSegment s)
    ⟨fun h => ⟨h.1, h.2⟩, fun h => ⟨h.normal, h.plain⟩⟩

/-- The text of a path with some segments. -/
def spell (segments : List (List Char)) : List Char :=
  segments.flatMap fun s => '/' :: Percent.encode Percent.inPath s

theorem spell_append (segments more : List (List Char)) :
    spell (segments ++ more) = spell segments ++ spell more :=
  List.flatMap_append

theorem spell_singleton (segment : List Char) :
    spell [segment] = '/' :: Percent.encode Percent.inPath segment :=
  List.flatMap_singleton _ _

theorem render_eq_spell (segments : List (List Char)) :
    (Path.segments (segments.map writeSegment)).render.toList = spell segments := by
  have hwritten : String.toList ∘ writeSegment = Percent.encode Percent.inPath :=
    funext fun _ => String.toList_ofList
  rw [toList_render, List.map_map, hwritten, List.flatMap_map]
  rfl

/-- The pieces of a plain path are no steps, and written they are the path. -/
theorem IsPlainPath.exists_rest {path : List Char} (h : IsPlainPath path) :
    ∃ rest, path = '/' :: rest ∧
      (∀ s ∈ Text.pieces (isSlash true) rest, isStep s = false) ∧
      spell (Text.pieces (isSlash true) rest) = path := by
  have hslash : ∀ s ∈ Gatehouse.Path.segments path, IsPlainSegment s ∧ '/' ∉ s :=
    fun s hs => ⟨h.plain s hs, (Gatehouse.Path.of_mem_segments hs).2⟩
  have hpath : path = Gatehouse.Path.ofSegments (Gatehouse.Path.segments path) := h.normal.symm
  generalize Gatehouse.Path.segments path = segments at hslash hpath
  subst hpath
  cases segments with
  | nil =>
    refine ⟨[], rfl, fun s hs => ?_, ?_⟩
    · rw [List.mem_singleton.1 hs]
      rfl
    · show spell [[]] = ['/']
      rw [spell_singleton, encode_nil]
  | cons s segments =>
    have hpieces : Text.pieces (isSlash true)
        (s ++ segments.flatMap ('/' :: ·)) = s :: segments :=
      (pieces_flatMap (List.cons_ne_nil s segments)).trans (flatMap_pieces_of_plain hslash)
    refine ⟨s ++ segments.flatMap ('/' :: ·), rfl, fun t ht => ?_, ?_⟩
    · rw [hpieces] at ht
      exact (hslash t ht).1.no_step
    · have hsame : ∀ l : List (List Char), (∀ t ∈ l, IsPlainSegment t) →
          spell l = l.flatMap ('/' :: ·) := by
        intro l hl
        induction l with
        | nil => rfl
        | cons t l ih =>
          rw [spell, List.flatMap_cons, encode_of_plain (hl t List.mem_cons_self).plain]
          exact congrArg (('/' :: t) ++ ·) (ih fun u hu => hl u (List.mem_cons_of_mem t hu))
      rw [hpieces, hsame _ fun t ht => (hslash t ht).1]
      rfl

/-- A plain path may be put where a path is read. -/
theorem IsPlainPath.visible {path : List Char} (h : IsPlainPath path) :
    ∀ c ∈ path, isPathPart c = true := by
  intro c hc
  rw [← h.normal] at hc
  rcases Gatehouse.Path.mem_normalize hc with rfl | hmem
  · decide
  · rw [Gatehouse.Path.normalize, Gatehouse.Path.ofSegments] at hc
    split at hc
    · rw [List.mem_singleton.1 hc]
      decide
    · obtain ⟨s, hs, hc⟩ := List.mem_flatMap.1 hc
      rcases List.mem_cons.1 hc with rfl | hc
      · decide
      · exact isPathPart_of_isPlain ((h.plain s hs).plain c hc)

/-! ## Folders -/

/-- The segments that a path comes to that is nothing or starts with a slash.  Whatever a step at
the end leaves is not counted. -/
def folders : List Char → List (List Char)
  | [] => []
  | _ :: rest => resolve [] (Text.pieces (isSlash true) rest)

/-- Whether a text is nothing or starts with a slash, whichever way it leans. -/
def IsPathPart (path : List Char) : Prop :=
  ∀ c, path.head? = some c → isSlash true c = true

theorem IsPlainPath.isPathPart {path : List Char} (h : IsPlainPath path) : IsPathPart path := by
  obtain ⟨rest, rfl, -⟩ := h.exists_rest
  intro c hc
  rw [← Option.some.inj hc]
  rfl

theorem not_mem_of_mem_folders {path s : List Char} (h : s ∈ folders path) : '/' ∉ s := by
  cases path with
  | nil => cases h
  | cons c rest =>
    refine forall_mem_resolve (P := fun s => '/' ∉ s) (by simp) (fun p hp _ hslash => ?_) s h
    exact absurd (Text.free_of_mem_pieces hp '/' hslash) (by decide)

theorem trailing_append (pieces : List (List Char)) {more : List (List Char)} (h : more ≠ []) :
    trailing (pieces ++ more) = trailing more := by
  rw [trailing, trailing, List.getLast?_append_of_ne_nil pieces h]

/-- What is put behind a path with a slash is read behind what the path comes to. -/
theorem hierarchical_append_cons {path : List Char} (hpath : IsPathPart path) (rest : List Char) :
    hierarchical true (path ++ '/' :: rest) =
      .segments ((readBehind (folders path) ('/' :: rest)).map writeSegment) := by
  have hne := Text.pieces_ne_nil (isSlash true) rest
  cases path with
  | nil => exact hierarchical_eq rfl
  | cons c path =>
    have hpieces : Text.pieces (isSlash true) (path ++ '/' :: rest) =
        Text.pieces (isSlash true) path ++ Text.pieces (isSlash true) rest :=
      Text.pieces_append_cons rfl path rest
    rw [List.cons_append, hierarchical, if_pos (hpath c rfl), hpieces]
    refine congrArg Path.segments
      ((walk_eq [] _ (List.append_ne_nil_of_right_ne_nil _ hne)).trans ?_)
    rw [resolve_append, trailing_append _ hne]
    rfl

/-- If it has no steps it comes behind what the path comes to. -/
theorem hierarchical_append {path : List Char} (hpath : IsPathPart path) {rest : List Char}
    (hrest : ∀ s ∈ Text.pieces (isSlash true) rest, isStep s = false) :
    hierarchical true (path ++ '/' :: rest) =
      .segments ((folders path ++ Text.pieces (isSlash true) rest).map writeSegment) := by
  rw [hierarchical_append_cons hpath, readBehind, piecesOf, List.tail_cons,
    resolve_of_no_step hrest, trailing_of_no_step hrest, List.append_nil]

/-- **A plain path behind another is there in the end as it was.** -/
theorem render_append {path : List Char} (hpath : IsPathPart path) {more : List Char}
    (hmore : IsPlainPath more) :
    (hierarchical true (path ++ more)).render.toList = spell (folders path) ++ more := by
  obtain ⟨rest, hcons, hsteps, hspell⟩ := hmore.exists_rest
  rw [hcons, hierarchical_append hpath hsteps, render_eq_spell, spell_append, hspell, hcons]

/-! ## Slashes at the end -/

theorem pieces_slashes {slashes : List Char} (h : ∀ c ∈ slashes, c = '/') :
    ∀ s ∈ Text.pieces (isSlash true) slashes, s = [] := by
  induction slashes with
  | nil =>
    intro s hs
    exact List.mem_singleton.1 hs
  | cons c slashes ih =>
    obtain rfl := h c List.mem_cons_self
    intro s hs
    rw [Text.pieces_cons_sep rfl] at hs
    rcases List.mem_cons.1 hs with rfl | hs
    · rfl
    · exact ih (fun d hd => h d (List.mem_cons_of_mem '/' hd)) s hs

theorem spell_of_empties {segments : List (List Char)} (h : ∀ s ∈ segments, s = []) :
    ∀ c ∈ spell segments, c = '/' := by
  intro c hc
  obtain ⟨s, hs, hc⟩ := List.mem_flatMap.1 hc
  rw [h s hs, encode_nil] at hc
  exact List.mem_singleton.1 hc

theorem trimEnd_append_slashes (cs : List Char) {slashes : List Char}
    (h : ∀ c ∈ slashes, c = '/') :
    Gatehouse.Path.trimEnd (cs ++ slashes) = Gatehouse.Path.trimEnd cs := by
  rw [Gatehouse.Path.trimEnd, List.reverse_append, List.dropWhile_append_of_pos fun c hc => by
    rw [h c (List.mem_reverse.1 hc)]; rfl]
  rfl

/-- **Slashes at the end of a path are all that is there in the end behind what it comes to.** -/
theorem trimEnd_render {path : List Char} (hpath : IsPathPart path) {slashes : List Char}
    (h : ∀ c ∈ slashes, c = '/') :
    Gatehouse.Path.trimEnd (hierarchical true (path ++ slashes)).render.toList =
      Gatehouse.Path.trimEnd (spell (folders path)) := by
  cases slashes with
  | cons c rest =>
    obtain rfl := h c List.mem_cons_self
    have hempty := pieces_slashes fun d hd => h d (List.mem_cons_of_mem '/' hd)
    rw [hierarchical_append hpath fun s hs => by rw [hempty s hs]; rfl, render_eq_spell,
      spell_append, trimEnd_append_slashes _ (spell_of_empties hempty)]
  | nil =>
    rw [List.append_nil]
    cases path with
    | nil => rfl
    | cons c path =>
      rw [hierarchical, if_pos (hpath c rfl)]
      show Gatehouse.Path.trimEnd (Path.segments (walk [] _)).render.toList = _
      rw [show walk [] (Text.pieces (isSlash true) path) = _ from
        walk_eq [] _ (Text.pieces_ne_nil _ _), render_eq_spell, spell_append,
        trimEnd_append_slashes _ (spell_of_empties fun s hs => eq_nil_of_mem_trailing hs)]
      rfl

/-- What is written of a segment without slashes has none. -/
theorem not_mem_encode {s : List Char} (h : '/' ∉ s) :
    '/' ∉ Percent.encode Percent.inPath s :=
  fun hmem => h ((mem_encode hmem).2 (.inl rfl))

/-- **What is written of some segments ends with a slash just if the last of them is empty.** -/
theorem trimEnd_spell_iff {segments : List (List Char)} (h : ∀ s ∈ segments, '/' ∉ s) :
    Gatehouse.Path.trimEnd (spell segments) = spell segments ↔
      segments.getLast? ≠ some [] := by
  rcases List.eq_nil_or_concat' segments with rfl | ⟨init, s, rfl⟩
  · exact ⟨fun _ => nofun, fun _ => rfl⟩
  · rw [List.getLast?_concat, spell_append, spell_singleton, Ne, Option.some.injEq,
      Gatehouse.Path.trimEnd_eq_rdropWhile, List.rdropWhile_eq_self_iff]
    have hs := not_mem_encode (h s List.mem_concat_self)
    have hne : spell init ++ '/' :: Percent.encode Percent.inPath s ≠ [] :=
      List.append_ne_nil_of_right_ne_nil _ (List.cons_ne_nil _ _)
    rcases List.eq_nil_or_concat' (Percent.encode Percent.inPath s) with hnil | ⟨front, c, hcons⟩
    · have hempty := encode_eq_nil_iff.1 hnil
      simp [hempty]
    · have hc : c ≠ '/' := by
        rintro rfl
        exact hs (hcons ▸ List.mem_concat_self)
      have hnonempty : s ≠ [] := by
        rintro rfl
        rw [encode_nil] at hcons
        exact absurd hcons.symm (List.append_ne_nil_of_right_ne_nil front (List.cons_ne_nil c []))
      simp [hcons, hc, hnonempty]

end Url
end Gatehouse
