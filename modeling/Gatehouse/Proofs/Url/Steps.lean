import Gatehouse.Proofs.Url.Encoding

/-!
# Steps in a path

Reading the path of a URL takes the steps in it: a piece `.` stands for nothing, and a piece `..`
takes the segment before it back.  `walk` does this on segments that are written already and kept
backwards.  Here the same is said on the pieces themselves, from front to back, so that one can see
what is taken back.

* `resolve` — the segments that are left of some pieces when the steps have been taken.
* `walk_eq` — `walk` writes what `resolve` leaves, and a last empty segment if the last piece is a
  step.
* `resolve_of_plain` — pieces without steps are left as they are.
-/

set_option autoImplicit false

namespace Gatehouse
namespace Url

open Percent

/-- Whether a piece is a step and no segment. -/
def isStep (piece : List Char) : Bool :=
  isUp piece || isHere piece

/-- The segments after one more piece. -/
def step (segments : List (List Char)) (piece : List Char) : List (List Char) :=
  if isUp piece then segments.dropLast
  else if isHere piece then segments
  else segments ++ [piece]

/-- The segments after some more pieces. -/
def resolve (segments pieces : List (List Char)) : List (List Char) :=
  pieces.foldl step segments

/-- The empty segment that takes the place of a step at the end. -/
def trailing (pieces : List (List Char)) : List (List Char) :=
  match pieces.getLast? with
  | some piece => if isStep piece then [[]] else []
  | none => []

/-- A segment as it is written. -/
def writeSegment (segment : List Char) : String :=
  String.ofList (encode inPath segment)

@[simp] theorem resolve_nil (segments : List (List Char)) : resolve segments [] = segments := rfl

@[simp] theorem resolve_cons (segments : List (List Char)) (piece : List Char)
    (pieces : List (List Char)) :
    resolve segments (piece :: pieces) = resolve (step segments piece) pieces := rfl

theorem resolve_append (segments pieces more : List (List Char)) :
    resolve segments (pieces ++ more) = resolve (resolve segments pieces) more :=
  List.foldl_append

theorem trailing_cons_of_ne_nil (piece : List Char) {pieces : List (List Char)} (h : pieces ≠ []) :
    trailing (piece :: pieces) = trailing pieces := by
  rw [trailing, trailing, List.getLast?_cons_of_ne_nil h]

theorem trailing_of_no_step {pieces : List (List Char)}
    (h : ∀ p ∈ pieces, isStep p = false) : trailing pieces = [] := by
  unfold trailing
  split
  · next piece hlast =>
    rw [h piece (List.mem_of_getLast? hlast), if_neg Bool.false_ne_true]
  · rfl

theorem eq_nil_of_mem_trailing {pieces : List (List Char)} {s : List Char}
    (h : s ∈ trailing pieces) :
    s = [] := by
  unfold trailing at h
  split at h
  · split at h
    · exact List.mem_singleton.1 h
    · cases h
  · cases h

theorem writeSegment_nil : writeSegment [] = "" := by
  rw [writeSegment, encode_nil]

/-- One piece of a walk, when more are to come. -/
theorem walk_cons_of_ne_nil (segments : List (List Char)) (piece : List Char)
    {pieces : List (List Char)} (h : pieces ≠ []) :
    walk (segments.map writeSegment).reverse (piece :: pieces) =
      walk ((step segments piece).map writeSegment).reverse pieces := by
  have hne : pieces.isEmpty = false := List.isEmpty_eq_false_iff.2 h
  rw [walk, step, hne]
  split
  · rw [if_neg Bool.false_ne_true, List.tail_reverse, List.map_dropLast]
  · split
    · rw [if_neg Bool.false_ne_true]
    · rw [List.map_append, List.reverse_append]
      rfl

/-- The last piece of a walk. -/
theorem walk_singleton (segments : List (List Char)) (piece : List Char) :
    walk (segments.map writeSegment).reverse [piece] =
      (step segments piece ++ trailing [piece]).map writeSegment := by
  have htrailing : trailing [piece] = if isStep piece then [[]] else [] := rfl
  rw [walk, step, htrailing, isStep]
  cases isUp piece with
  | true => simp [walk, writeSegment_nil, List.map_dropLast]
  | false =>
    cases isHere piece with
    | true => simp [walk, writeSegment_nil]
    | false => simp [walk, writeSegment]

/-- **What is written of a path are the segments that the steps leave.** -/
theorem walk_eq (segments pieces : List (List Char)) (h : pieces ≠ []) :
    walk (segments.map writeSegment).reverse pieces =
      (resolve segments pieces ++ trailing pieces).map writeSegment := by
  induction pieces generalizing segments with
  | nil => exact absurd rfl h
  | cons piece pieces ih =>
    by_cases hne : pieces = []
    · subst hne
      exact walk_singleton segments piece
    · rw [walk_cons_of_ne_nil segments piece hne, ih _ hne, resolve_cons,
        trailing_cons_of_ne_nil piece hne]

/-! ## Pieces without steps -/

/-- A segment that is read and written as it stands: it separates into no pieces, takes no step and
has no character that is written otherwise. -/
structure IsPlainSegment (segment : List Char) : Prop where
  plain : ∀ c ∈ segment, isPlain c = true
  free : '\\' ∉ segment
  no_step : isStep segment = false

instance (segment : List Char) : Decidable (IsPlainSegment segment) :=
  decidable_of_iff
    (segment.all isPlain = true ∧ '\\' ∉ segment ∧ isStep segment = false)
    ⟨fun h => ⟨List.all_eq_true.1 h.1, h.2.1, h.2.2⟩,
      fun h => ⟨List.all_eq_true.2 h.plain, h.free, h.no_step⟩⟩

theorem step_of_no_step {piece : List Char} (h : isStep piece = false)
    (segments : List (List Char)) :
    step segments piece = segments ++ [piece] := by
  rw [isStep, Bool.or_eq_false_iff] at h
  rw [step, h.1, h.2, if_neg Bool.false_ne_true, if_neg Bool.false_ne_true]

theorem resolve_of_no_step {pieces : List (List Char)} (h : ∀ piece ∈ pieces, isStep piece = false)
    (segments : List (List Char)) : resolve segments pieces = segments ++ pieces := by
  induction pieces generalizing segments with
  | nil => rw [resolve_nil, List.append_nil]
  | cons piece pieces ih =>
    rw [resolve_cons, step_of_no_step (h piece List.mem_cons_self),
      ih (fun p hp => h p (List.mem_cons_of_mem piece hp)), List.append_assoc,
      List.singleton_append]

/-- Whoever does not step back stays below. -/
theorem prefix_resolve {pieces : List (List Char)} (h : ∀ piece ∈ pieces, isUp piece = false)
    (segments : List (List Char)) : segments <+: resolve segments pieces := by
  induction pieces generalizing segments with
  | nil => exact List.prefix_rfl
  | cons piece pieces ih =>
    refine List.IsPrefix.trans ?_ (ih (fun p hp => h p (List.mem_cons_of_mem piece hp)) _)
    rw [step, h piece List.mem_cons_self, if_neg Bool.false_ne_true]
    split
    · exact List.prefix_rfl
    · exact List.prefix_append segments [piece]

/-- What holds of the segments before and of every piece that is no step, holds of what is left. -/
theorem forall_mem_resolve {P : List Char → Prop} {segments pieces : List (List Char)}
    (hsegments : ∀ s ∈ segments, P s) (hpieces : ∀ p ∈ pieces, isStep p = false → P p) :
    ∀ s ∈ resolve segments pieces, P s := by
  induction pieces generalizing segments with
  | nil => exact hsegments
  | cons piece pieces ih =>
    refine ih (fun s hs => ?_) fun p hp => hpieces p (List.mem_cons_of_mem piece hp)
    rw [step] at hs
    split at hs
    · exact hsegments s (List.dropLast_subset segments hs)
    · next hup =>
      split at hs
      · exact hsegments s hs
      · next hhere =>
        rcases List.mem_append.1 hs with hs | hs
        · exact hsegments s hs
        · rw [List.mem_singleton.1 hs]
          exact hpieces piece List.mem_cons_self (by simp [isStep, hup, hhere])

/-! ## The path of a URL -/

/-- The pieces of a path that starts with a slash. -/
def piecesOf (path : List Char) : List (List Char) :=
  Text.pieces (isSlash true) path.tail

/-- The segments of a path when its steps have been taken, as they stood in it. -/
def resolved (path : List Char) : List (List Char) :=
  resolve [] (piecesOf path) ++ trailing (piecesOf path)

/-- What a path is read as behind some segments. -/
def readBehind (base : List (List Char)) (path : List Char) : List (List Char) :=
  resolve base (piecesOf path) ++ trailing (piecesOf path)

theorem hierarchical_eq {path : List Char} (h : path.head? = some '/') :
    hierarchical true path = .segments ((resolved path).map writeSegment) := by
  cases path with
  | nil => cases h
  | cons c path =>
    obtain rfl : c = '/' := by simpa using h
    exact congrArg Path.segments (walk_eq [] _ (Text.pieces_ne_nil _ _))

/-- The path of a special URL comes of some pieces, however it starts. -/
theorem exists_hierarchical_eq (cs : List Char) :
    ∃ path, hierarchical true cs = .segments ((resolved path).map writeSegment) := by
  cases cs with
  | nil =>
    refine ⟨['/'], ?_⟩
    rw [show resolved ['/'] = [[]] from rfl, List.map_singleton, writeSegment_nil]
    rfl
  | cons c cs =>
    refine ⟨'/' :: (if isSlash true c then cs else c :: cs), ?_⟩
    exact congrArg Path.segments (walk_eq [] _ (Text.pieces_ne_nil _ _))

/-- Every segment that is written would be read and written again as it stands. -/
theorem isPlainSegment_of_mem_resolved {path : List Char} {s : List Char} (h : s ∈ resolved path) :
    IsPlainSegment (encode inPath s) := by
  have hmem : '\\' ∉ s ∧ isStep s = false := by
    rcases List.mem_append.1 h with h | h
    · refine forall_mem_resolve (P := fun s => '\\' ∉ s ∧ isStep s = false) (by simp)
        (fun p hp hstep => ⟨fun hc => ?_, hstep⟩) s h
      exact absurd (Text.free_of_mem_pieces hp '\\' hc) (by decide)
    · rw [eq_nil_of_mem_trailing h]
      decide
  refine ⟨fun c hc => (mem_encode hc).1, fun hc => hmem.1 ((mem_encode hc).2 (Or.inr rfl)), ?_⟩
  rw [isStep, isUp_encode, isHere_encode]
  exact hmem.2

end Url
end Gatehouse
