import Gatehouse.Proofs.Url.Below

/-!
# Slashes that are too many

A path has slashes that its normal form has not: those that meet another, and one at its end.  To a
reader of URLs each of them makes an empty segment, so a path and its normal form are read as
different paths, unless the empty segments are taken back by steps that follow.

The two readings go side by side.  Where a slash is too many the longer one gains a segment, and
from then on it stays ahead of the other until steps have led both back to the root.

* `Trails` — how the reading without the empty parts stands to the one with them.
* `resolve_kept_iff` — when both end at the same segments.
* `readBehind_normalize_iff` — a path is read as its normal form is, just if its slashes are undone.
* `readBehind_normalize_iff_of_no_step` — without steps, that is just if it is in normal form.
-/

set_option autoImplicit false

namespace Gatehouse
namespace Url

variable {base segments longer parts : List (List Char)} {path : List Char}

/-! ## Parts -/

/-- The parts of a path that starts with a slash: what stands between its slashes and behind the
last.  A part is empty where two slashes meet, and where one ends the path. -/
def partsOf (path : List Char) : List (List Char) :=
  Text.pieces (· == '/') path.tail

/-- The pieces of some parts; a backslash separates them too. -/
def split (parts : List (List Char)) : List (List Char) :=
  parts.flatMap (Text.pieces (isSlash true))

/-- The parts that a path keeps in normal form. -/
def kept (parts : List (List Char)) : List (List Char) :=
  parts.filter fun part => !part.isEmpty

theorem split_cons (part : List Char) (parts : List (List Char)) :
    split (part :: parts) = Text.pieces (isSlash true) part ++ split parts :=
  List.flatMap_cons

theorem split_cons_nil (parts : List (List Char)) : split ([] :: parts) = [] :: split parts :=
  split_cons [] parts

theorem split_append (front behind : List (List Char)) :
    split (front ++ behind) = split front ++ split behind :=
  List.flatMap_append

theorem split_concat_nil (front : List (List Char)) : split (front ++ [[]]) = split front ++ [[]] :=
  split_append front [[]]

theorem kept_cons_nil (parts : List (List Char)) : kept ([] :: parts) = kept parts :=
  List.filter_cons_of_neg (by simp)

theorem kept_cons_of_ne {part : List Char} (h : part ≠ []) (parts : List (List Char)) :
    kept (part :: parts) = part :: kept parts :=
  List.filter_cons_of_pos (by simpa using h)

theorem kept_append (front behind : List (List Char)) :
    kept (front ++ behind) = kept front ++ kept behind :=
  List.filter_append front behind

theorem kept_concat_nil (front : List (List Char)) : kept (front ++ [[]]) = kept front := by
  rw [kept_append, kept_cons_nil]
  exact List.append_nil _

theorem kept_concat_of_ne {part : List Char} (h : part ≠ []) (front : List (List Char)) :
    kept (front ++ [part]) = kept front ++ [part] := by
  rw [kept_append, kept_cons_of_ne h]
  rfl

theorem kept_of_notMem (h : [] ∉ parts) : kept parts = parts := by
  refine List.filter_eq_self.2 fun part hpart => ?_
  rw [Bool.not_eq_true', List.isEmpty_eq_false_iff]
  exact fun hnil => h (hnil ▸ hpart)

theorem piecesOf_eq_split (path : List Char) : piecesOf path = split (partsOf path) := by
  have hpieces := pieces_flatMap (Text.pieces_ne_nil (· == '/') path.tail)
  rw [Gatehouse.Path.flatMap_pieces] at hpieces
  exact hpieces

theorem segments_eq_kept (h : path.head? = some '/') :
    Gatehouse.Path.segments path = kept (partsOf path) := by
  obtain ⟨rest, rfl⟩ := List.head?_eq_some_iff.1 h
  exact Gatehouse.Path.segments_cons_slash rest

theorem eq_flatMap_partsOf (h : path.head? = some '/') :
    path = (partsOf path).flatMap ('/' :: ·) := by
  obtain ⟨rest, rfl⟩ := List.head?_eq_some_iff.1 h
  exact (Gatehouse.Path.flatMap_pieces rest).symm

theorem piecesOf_normalize (h : path.head? = some '/') (hne : kept (partsOf path) ≠ []) :
    piecesOf (Gatehouse.Path.normalize path) = split (kept (partsOf path)) := by
  rw [Gatehouse.Path.normalize, segments_eq_kept h, Gatehouse.Path.ofSegments_of_ne hne]
  exact pieces_flatMap hne

/-! ## Two walks -/

/-- Some segments are others, or fewer than those. -/
def Trails (segments longer : List (List Char)) : Prop :=
  segments = longer ∨ segments.length < longer.length

theorem Trails.length_le (h : Trails segments longer) : segments.length ≤ longer.length :=
  h.elim (fun heq => heq ▸ Nat.le_refl _) Nat.le_of_lt

theorem Trails.append (h : Trails segments longer) (more : List (List Char)) :
    Trails (segments ++ more) (longer ++ more) := by
  rcases h with rfl | hlt
  · exact Or.inl rfl
  · rw [Trails, List.length_append, List.length_append]
    exact Or.inr (Nat.add_lt_add_right hlt _)

/-- What is written of the two tells them apart, although not every segment is written
differently. -/
theorem Trails.map_eq_iff {α : Type} (h : Trails segments longer) (f : List Char → α) :
    segments.map f = longer.map f ↔ segments = longer := by
  refine ⟨fun hmap => h.resolve_right fun hlt => ?_, congrArg _⟩
  have hlength := congrArg List.length hmap
  rw [List.length_map, List.length_map] at hlength
  omega

theorem step_nil (segments : List (List Char)) : step segments [] = segments ++ [[]] :=
  step_of_no_step rfl segments

/-- An empty part puts the longer walk ahead. -/
theorem Trails.lt_concat (h : Trails segments longer) :
    segments.length < (longer ++ [[]]).length := by
  rw [List.length_append, List.length_singleton]
  exact Nat.lt_succ_of_le h.length_le

/-- The walk that is ahead stays ahead, unless a step leads both back to the root. -/
theorem step_of_length_lt (h : segments.length < longer.length) (piece : List Char) :
    step segments piece = [] ∧ step longer piece = [] ∨
      (step segments piece).length < (step longer piece).length := by
  unfold step
  split
  · by_cases hroot : longer.dropLast = []
    · have hlength := congrArg List.length hroot
      rw [List.length_dropLast, List.length_nil] at hlength
      have hnil : segments = [] := List.eq_nil_of_length_eq_zero (by omega)
      exact Or.inl ⟨by rw [hnil]; rfl, hroot⟩
    · have hpos := List.length_pos_iff.2 hroot
      rw [List.length_dropLast] at hpos
      rw [List.length_dropLast, List.length_dropLast]
      exact Or.inr (by omega)
  · split
    · exact Or.inr h
    · rw [List.length_append, List.length_append]
      exact Or.inr (Nat.add_lt_add_right h _)

theorem Trails.step (h : Trails segments longer) (piece : List Char) :
    Trails (step segments piece) (step longer piece) := by
  rcases h with rfl | hlt
  · exact Or.inl rfl
  · exact (step_of_length_lt hlt piece).imp (fun hroot => hroot.1.trans hroot.2.symm) id

theorem Trails.resolve (h : Trails segments longer) (pieces : List (List Char)) :
    Trails (resolve segments pieces) (resolve longer pieces) := by
  induction pieces generalizing segments longer with
  | nil => exact h
  | cons piece pieces ih => exact ih (h.step piece)

/-- Whatever the empty parts are, the walk without them trails. -/
theorem Trails.resolve_kept (h : Trails segments longer) (parts : List (List Char)) :
    Trails (Url.resolve segments (split (kept parts))) (Url.resolve longer (split parts)) := by
  induction parts generalizing segments longer with
  | nil => exact h
  | cons part parts ih =>
    by_cases hpart : part = []
    · subst hpart
      rw [kept_cons_nil, split_cons_nil, resolve_cons, step_nil]
      exact ih (Or.inr h.lt_concat)
    · rw [kept_cons_of_ne hpart, split_cons, split_cons, resolve_append, resolve_append]
      exact ih (h.resolve _)

/-- A walk that is ahead is still ahead at the end, unless it has been back at the root. -/
theorem resolve_of_length_lt (h : segments.length < longer.length) (pieces : List (List Char)) :
    (∃ way, way <+: pieces ∧ resolve longer way = []) ∨
      (resolve segments pieces).length < (resolve longer pieces).length := by
  induction pieces generalizing segments longer with
  | nil => exact Or.inr h
  | cons piece pieces ih =>
    rcases step_of_length_lt h piece with ⟨-, hroot⟩ | hlt
    · exact Or.inl ⟨[piece], List.prefix_append [piece] pieces, hroot⟩
    · rcases ih hlt with ⟨way, hway, hroot⟩ | hend
      · exact Or.inl ⟨piece :: way, List.cons_prefix_cons.2 ⟨rfl, hway⟩, hroot⟩
      · exact Or.inr hend

theorem resolve_kept_of_length_lt (h : segments.length < longer.length)
    (parts : List (List Char)) :
    (∃ way, way <+: split parts ∧ resolve longer way = []) ∨
      (resolve segments (split (kept parts))).length < (resolve longer (split parts)).length := by
  induction parts generalizing segments longer with
  | nil => exact Or.inr h
  | cons part parts ih =>
    by_cases hpart : part = []
    · subst hpart
      rw [kept_cons_nil, split_cons_nil, resolve_cons, step_nil]
      rcases ih (Trails.lt_concat (Or.inr h)) with ⟨way, hway, hroot⟩ | hend
      · refine Or.inl ⟨[] :: way, List.cons_prefix_cons.2 ⟨rfl, hway⟩, ?_⟩
        rw [resolve_cons, step_nil, hroot]
      · exact Or.inr hend
    · rw [kept_cons_of_ne hpart, split_cons, split_cons, resolve_append, resolve_append]
      rcases resolve_of_length_lt h (Text.pieces (isSlash true) part) with
        ⟨way, hway, hroot⟩ | hlt
      · exact Or.inl ⟨way, hway.trans (List.prefix_append _ _), hroot⟩
      · rcases ih hlt with ⟨way, hway, hroot⟩ | hend
        · refine Or.inl ⟨_, (List.prefix_append_right_inj _).2 hway, ?_⟩
          rw [resolve_append, hroot]
        · exact Or.inr hend

/-! ## When both end at the same segments -/

/-- Whether the steps behind each empty part lead back to the root at some point. -/
def EmptiesUndone (base parts : List (List Char)) : Prop :=
  ∀ front behind, parts = front ++ [] :: behind →
    ∃ way, way <+: split behind ∧ resolve base (split front ++ [] :: way) = []

theorem exists_last_of_mem {part : List Char} (h : part ∈ parts) :
    ∃ front behind, parts = front ++ part :: behind ∧ part ∉ behind := by
  obtain ⟨behind, front, hparts, hfirst⟩ := List.eq_append_cons_of_mem (List.mem_reverse.2 h)
  refine ⟨front.reverse, behind.reverse, ?_, fun hmem => hfirst (List.mem_reverse.1 hmem)⟩
  rw [← List.reverse_reverse parts, hparts]
  simp

/-- **Without the empty parts a path comes to the same segments, just if the steps behind each of
them lead back to the root.** -/
theorem resolve_kept_iff (base parts : List (List Char)) :
    resolve base (split (kept parts)) = resolve base (split parts) ↔ EmptiesUndone base parts := by
  constructor
  · rintro heq front behind rfl
    have hahead : (resolve base (split (kept front))).length <
        (resolve base (split front) ++ [[]]).length :=
      Trails.lt_concat (Trails.resolve_kept (Or.inl rfl) front)
    rw [kept_append, kept_cons_nil, split_append, split_append, split_cons_nil, resolve_append,
      resolve_append, resolve_cons, step_nil] at heq
    rcases resolve_kept_of_length_lt hahead behind with ⟨way, hway, hroot⟩ | hlt
    · exact ⟨way, hway, by rw [resolve_append, resolve_cons, step_nil, hroot]⟩
    · rw [heq] at hlt
      exact absurd hlt (Nat.lt_irrefl _)
  · intro hundone
    by_cases hmem : [] ∈ parts
    · -- behind the last empty part both are at the root together, and nothing parts them again
      obtain ⟨front, behind, rfl, hlast⟩ := exists_last_of_mem hmem
      obtain ⟨way, ⟨rest, hrest⟩, hroot⟩ := hundone front behind rfl
      rw [resolve_append, resolve_cons, step_nil] at hroot
      have htrails : Trails (resolve (resolve base (split (kept front))) way)
          (resolve (resolve base (split front) ++ [[]]) way) :=
        Trails.resolve (Or.inr (Trails.lt_concat (Trails.resolve_kept (Or.inl rfl) front))) way
      have hnil : resolve (resolve base (split (kept front))) way = [] := by
        rw [hroot] at htrails
        exact List.eq_nil_of_length_eq_zero (Nat.le_zero.1 htrails.length_le)
      rw [kept_append, kept_cons_nil, kept_of_notMem hlast, split_append, split_append,
        split_cons_nil, resolve_append, resolve_append, resolve_cons, step_nil, ← hrest,
        resolve_append, resolve_append, hnil, hroot]
    · rw [kept_of_notMem hmem]

/-- An empty part at the end is not undone. -/
theorem not_emptiesUndone_concat (base front : List (List Char)) :
    ¬ EmptiesUndone base (front ++ [[]]) := by
  intro h
  obtain ⟨way, hway, hroot⟩ := h front [] rfl
  rw [List.prefix_nil.1 hway, resolve_append, resolve_cons, step_nil] at hroot
  exact absurd hroot (List.concat_ne_nil _ _)

/-! ## Whole paths -/

/-- Nothing of the slashes that are too many is left when a path is read behind some segments:
behind two that meet there are steps that lead back to the root, and one at the end stands behind a
step, which leaves an empty segment anyway. -/
structure SlashesUndone (base : List (List Char)) (path : List Char) : Prop where
  meeting : ∀ front behind, partsOf path = front ++ [] :: behind → behind ≠ [] →
    ∃ way, way <+: split behind ∧ resolve base (split front ++ [] :: way) = []
  ending : ∀ front, partsOf path = front ++ [[]] → front ≠ [] →
    ∃ piece ∈ (split front).getLast?, isStep piece = true

theorem trailing_split_concat (front : List (List Char)) (part : List Char) :
    trailing (split (front ++ [part])) = trailing (Text.pieces (isSlash true) part) := by
  have hsplit : split [part] = Text.pieces (isSlash true) part := List.flatMap_singleton _ _
  rw [split_append, hsplit, trailing_append _ (Text.pieces_ne_nil _ _)]

theorem trailing_eq_iff {pieces : List (List Char)} :
    trailing pieces = [[]] ↔ ∃ piece ∈ pieces.getLast?, isStep piece = true := by
  unfold trailing
  cases pieces.getLast? with
  | none => simp
  | some piece => simp

theorem trailing_eq_or (pieces : List (List Char)) :
    trailing pieces = [] ∨ trailing pieces = [[]] := by
  unfold trailing
  split
  · split
    · exact Or.inr rfl
    · exact Or.inl rfl
  · exact Or.inl rfl

/-- A path that does not end with a slash has one too many only where two meet. -/
theorem slashesUndone_iff_of_ne {front : List (List Char)} {part : List Char}
    (hparts : partsOf path = front ++ [part]) (hpart : part ≠ []) :
    SlashesUndone base path ↔ EmptiesUndone base (partsOf path) := by
  constructor
  · intro h before behind hbefore
    refine h.meeting before behind hbefore ?_
    rintro rfl
    rw [hbefore] at hparts
    exact hpart (List.cons.inj (List.append_inj' hparts rfl).2).1.symm
  · intro h
    refine ⟨fun before behind hbefore _ => h before behind hbefore, fun before hbefore => ?_⟩
    rw [hparts] at hbefore
    exact absurd (List.cons.inj (List.append_inj' hbefore rfl).2).1 hpart

/-- A slash at the end of a path undoes nothing in front of it. -/
theorem slashesUndone_iff_of_concat {front : List (List Char)}
    (hparts : partsOf path = front ++ [[]]) (hne : front ≠ []) :
    SlashesUndone base path ↔
      EmptiesUndone base front ∧ ∃ piece ∈ (split front).getLast?, isStep piece = true := by
  constructor
  · refine fun h => ⟨?_, h.ending front hparts hne⟩
    rintro before behind rfl
    have hlonger : partsOf path = before ++ [] :: (behind ++ [[]]) := by
      rw [hparts, List.append_assoc, List.cons_append]
    obtain ⟨way, hway, hroot⟩ := h.meeting before _ hlonger (List.concat_ne_nil _ _)
    rw [split_concat_nil] at hway
    rcases List.prefix_concat_iff.1 hway with rfl | hway
    · rw [← List.cons_append, ← List.append_assoc, resolve_append, resolve_cons, step_nil] at hroot
      exact absurd hroot (List.concat_ne_nil _ _)
    · exact ⟨way, hway, hroot⟩
  · rintro ⟨hundone, hstep⟩
    refine ⟨fun before behind hbefore hbehind => ?_, fun before hbefore _ => ?_⟩
    · obtain ⟨init, part, rfl⟩ := (List.eq_nil_or_concat' behind).resolve_left hbehind
      rw [hparts, ← List.cons_append, ← List.append_assoc] at hbefore
      obtain ⟨rfl, -⟩ := List.append_inj' hbefore rfl
      obtain ⟨way, hway, hroot⟩ := hundone before init rfl
      rw [split_append]
      exact ⟨way, hway.trans (List.prefix_append _ _), hroot⟩
    · rw [hparts] at hbefore
      rwa [← (List.append_inj' hbefore rfl).1]

/-- What is read of a path in normal form are the parts that it keeps, and perhaps an empty
segment. -/
theorem exists_readBehind_normalize (base : List (List Char)) (h : path.head? = some '/') :
    ∃ more, readBehind base (Gatehouse.Path.normalize path) =
        resolve base (split (kept (partsOf path))) ++ more ∧ (more = [] ∨ more = [[]]) := by
  by_cases hne : kept (partsOf path) = []
  · refine ⟨[[]], ?_, Or.inr rfl⟩
    rw [Gatehouse.Path.normalize, segments_eq_kept h, hne]
    exact List.append_nil _
  · exact ⟨_, by rw [readBehind, piecesOf_normalize h hne], trailing_eq_or _⟩

theorem readBehind_of_concat {front : List (List Char)} (hparts : partsOf path = front ++ [[]]) :
    readBehind base path = resolve base (split front) ++ [[]] := by
  rw [readBehind, piecesOf_eq_split, hparts, trailing_split_concat, split_concat_nil,
    resolve_append, resolve_cons, step_nil]
  exact List.append_nil _

/-- A path that does not end with a slash ends the same in normal form. -/
theorem readBehind_of_ne {front : List (List Char)} {part : List Char} (base : List (List Char))
    (h : path.head? = some '/') (hparts : partsOf path = front ++ [part]) (hpart : part ≠ []) :
    readBehind base (Gatehouse.Path.normalize path) =
        resolve base (split (kept (partsOf path))) ++ trailing (split (partsOf path)) ∧
      readBehind base path =
        resolve base (split (partsOf path)) ++ trailing (split (partsOf path)) := by
  have hconcat : kept (partsOf path) = kept front ++ [part] := by
    rw [hparts, kept_concat_of_ne hpart]
  have hsome : kept (partsOf path) ≠ [] := by
    rw [hconcat]
    exact List.concat_ne_nil _ _
  have htrailing : trailing (split (kept (partsOf path))) = trailing (split (partsOf path)) := by
    rw [hconcat, hparts, trailing_split_concat, trailing_split_concat]
  exact ⟨by rw [readBehind, piecesOf_normalize h hsome, htrailing],
    by rw [readBehind, piecesOf_eq_split]⟩

/-- Where the empty parts are undone, the path in normal form comes to the same, up to a slash at
the end. -/
theorem readBehind_normalize_of_concat {front : List (List Char)} (h : path.head? = some '/')
    (hparts : partsOf path = front ++ [[]]) (hne : front ≠ [])
    (hundone : EmptiesUndone base front) :
    readBehind base (Gatehouse.Path.normalize path) =
      resolve base (split front) ++ trailing (split front) := by
  obtain ⟨init, last, rfl⟩ := (List.eq_nil_or_concat' front).resolve_left hne
  have hlast : last ≠ [] := by
    rintro rfl
    exact not_emptiesUndone_concat base init hundone
  have hkept : kept (partsOf path) = kept (init ++ [last]) := by
    rw [hparts, kept_concat_nil]
  have hconcat := kept_concat_of_ne hlast init
  have hsome : kept (partsOf path) ≠ [] := by
    rw [hkept, hconcat]
    exact List.concat_ne_nil _ _
  rw [readBehind, piecesOf_normalize h hsome, hkept, (resolve_kept_iff _ _).2 hundone, hconcat,
    trailing_split_concat, trailing_split_concat]

/-- **A path is read as its normal form is, just if the slashes that are too many are undone.** -/
theorem readBehind_normalize_iff (base : List (List Char)) (h : path.head? = some '/') :
    readBehind base (Gatehouse.Path.normalize path) = readBehind base path ↔
      SlashesUndone base path := by
  obtain ⟨front, part, hparts⟩ :=
    (List.eq_nil_or_concat' (partsOf path)).resolve_left (Text.pieces_ne_nil _ _)
  by_cases hpart : part = []
  · subst hpart
    by_cases hne : front = []
    · subst hne
      have hroot : path = ['/'] := by
        rw [eq_flatMap_partsOf h, hparts]
        rfl
      refine iff_of_true (by rw [hroot]; rfl) ⟨fun front behind hbefore hbehind => ?_,
        fun front hbefore hfront => ?_⟩
      · rw [hparts] at hbefore
        have hlength := congrArg List.length hbefore
        have hpos := List.length_pos_iff.2 hbehind
        simp only [List.nil_append, List.length_append, List.length_cons,
          List.length_nil] at hlength
        omega
      · rw [hparts] at hbefore
        exact absurd (List.append_inj' hbefore rfl).1.symm hfront
    · rw [slashesUndone_iff_of_concat hparts hne, readBehind_of_concat hparts]
      by_cases hundone : EmptiesUndone base front
      · rw [readBehind_normalize_of_concat h hparts hne hundone, List.append_cancel_left_eq,
          trailing_eq_iff, and_iff_right hundone]
      · -- the walk along the path is ahead, and one segment does not make up for it
        refine iff_of_false (fun heq => ?_) fun hboth => hundone hboth.1
        obtain ⟨more, hread, hmore⟩ := exists_readBehind_normalize base h
        rw [hread, hparts, kept_concat_nil] at heq
        have hahead : (resolve base (split (kept front))).length <
            (resolve base (split front)).length :=
          (Trails.resolve_kept (Or.inl rfl) front).resolve_left
            fun hsame => hundone ((resolve_kept_iff _ _).1 hsame)
        have hlength := congrArg List.length heq
        rw [List.length_append, List.length_append, List.length_singleton] at hlength
        have hshort : more.length ≤ 1 := by
          rcases hmore with rfl | rfl <;> simp
        omega
  · obtain ⟨hnormal, hread⟩ := readBehind_of_ne base h hparts hpart
    rw [hnormal, hread, List.append_cancel_right_eq, resolve_kept_iff,
      slashesUndone_iff_of_ne hparts hpart]

-- the steps behind the two slashes lead back to the root, and past them nothing else is read
example : readBehind [] (Gatehouse.Path.normalize "/a//../../b".toList) =
    readBehind [] "/a//../../b".toList := by decide

/-- What is read of the normal form of a path is what is read of the path, or shorter. -/
theorem trails_readBehind (base : List (List Char)) (h : path.head? = some '/') :
    Trails (readBehind base (Gatehouse.Path.normalize path)) (readBehind base path) := by
  obtain ⟨front, part, hparts⟩ :=
    (List.eq_nil_or_concat' (partsOf path)).resolve_left (Text.pieces_ne_nil _ _)
  by_cases hpart : part = []
  · subst hpart
    obtain ⟨more, hread, hmore⟩ := exists_readBehind_normalize base h
    rw [hread, hparts, kept_concat_nil, readBehind_of_concat hparts]
    have htrails : Trails (resolve base (split (kept front))) (resolve base (split front)) :=
      Trails.resolve_kept (Or.inl rfl) front
    rcases hmore with rfl | rfl
    · rw [List.append_nil]
      exact Or.inr htrails.lt_concat
    · exact htrails.append [[]]
  · obtain ⟨hnormal, hread⟩ := readBehind_of_ne base h hparts hpart
    rw [hnormal, hread]
    exact (Trails.resolve_kept (Or.inl rfl) (partsOf path)).append _

/-- A path without empty parts is in normal form. -/
theorem isNormal_of_notMem (h : path.head? = some '/') (hmem : [] ∉ partsOf path) :
    Gatehouse.Path.IsNormal path := by
  have hkept := kept_of_notMem hmem
  have hne : kept (partsOf path) ≠ [] := by
    rw [hkept]
    exact Text.pieces_ne_nil _ _
  rw [Gatehouse.Path.IsNormal, Gatehouse.Path.normalize, segments_eq_kept h,
    Gatehouse.Path.ofSegments_of_ne hne, hkept, ← eq_flatMap_partsOf h]

/-- **A path without steps is read as its normal form is, just if it is in normal form.** -/
theorem readBehind_normalize_iff_of_no_step (base : List (List Char)) (h : path.head? = some '/')
    (hsteps : ∀ piece ∈ piecesOf path, isStep piece = false) :
    readBehind base (Gatehouse.Path.normalize path) = readBehind base path ↔
      Gatehouse.Path.IsNormal path := by
  refine ⟨fun hsame => ?_, fun hnormal => by rw [hnormal]⟩
  have hundone := (readBehind_normalize_iff base h).1 hsame
  rw [piecesOf_eq_split] at hsteps
  by_cases hmem : [] ∈ partsOf path
  · obtain ⟨front, behind, hparts⟩ := List.append_of_mem hmem
    rw [hparts, split_append, split_cons_nil] at hsteps
    by_cases hbehind : behind = []
    · subst hbehind
      by_cases hfront : front = []
      · subst hfront
        rw [eq_flatMap_partsOf h, hparts]
        rfl
      · obtain ⟨piece, hpiece, hstep⟩ := hundone.ending front hparts hfront
        rw [hsteps piece (List.mem_append_left _ (List.mem_of_getLast? hpiece))] at hstep
        cases hstep
    · obtain ⟨way, hway, hroot⟩ := hundone.meeting front behind hparts hbehind
      have hno : ∀ piece ∈ split front ++ [] :: way, isStep piece = false := by
        intro piece hpiece
        refine hsteps piece (((List.prefix_append_right_inj _).2 ?_).subset hpiece)
        exact List.cons_prefix_cons.2 ⟨rfl, hway⟩
      rw [resolve_of_no_step hno] at hroot
      simp at hroot
  · exact isNormal_of_notMem h hmem

end Url
end Gatehouse
