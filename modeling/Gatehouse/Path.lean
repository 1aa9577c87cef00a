import Gatehouse.Text.Pieces

/-!
# Paths

A path is a list of segments, and almost everything the gateway asks of one is a question about that
list.  `segments` cuts a text at its slashes and drops the empty pieces; `ofSegments` puts a slash
in front of each.  `normalize` is the one after the other, so a normalised path has a single leading
slash, no empty segment, and no slash at its end unless it is `/` itself.

`join` puts a rest under a base, and `stripBase` takes a base away again; `underNamespace` uses both
to put the pages of an application under the namespace of a caller, unless the path is already
there.

Nothing is decoded: a percent sign is a character like any other, and `.` and `..` are ordinary
segments.

* `segments_ofSegments` — the segments of a path made of segments are these.
* `segments_normalize`, `normalize_normalize` — normalising keeps the segments, and once is enough.
* `segments_join` — the segments of a rest under a base are those of the base and then those of the
  rest.
* `finalSegment?_eq_getLast?` — what is found from the end is the last of the segments.
-/

set_option autoImplicit false

namespace Gatehouse
namespace Path

/-- The segments of a path: the pieces between its slashes that are not empty. -/
def segments (cs : List Char) : List (List Char) :=
  (Text.pieces (· == '/') cs).filter fun piece => !piece.isEmpty

/-- The path with the given segments. -/
def ofSegments (pieces : List (List Char)) : List Char :=
  if pieces.isEmpty then ['/'] else pieces.flatMap ('/' :: ·)

/-- The path with the same segments and no slash too many. -/
def normalize (cs : List Char) : List Char :=
  ofSegments (segments cs)

/-- A text without the slashes it starts with. -/
def trimStart (cs : List Char) : List Char :=
  cs.dropWhile (· == '/')

/-- A text without the slashes it ends with. -/
def trimEnd (cs : List Char) : List Char :=
  (cs.reverse.dropWhile (· == '/')).reverse

/-- A rest under a base.  The result is normalised unless the base is empty and the rest is not:
then the rest keeps the slashes it has inside. -/
def join (base rest : List Char) : List Char :=
  let base := trimEnd base
  let rest := trimStart rest
  if base.isEmpty then '/' :: rest
  else if rest.isEmpty then normalize base
  else normalize (base ++ '/' :: rest)

/-- Whether a text is a path that goes on at a segment boundary, or ends. -/
def atBoundary : List Char → Bool
  | [] => true
  | c :: _ => c == '/'

/-- What follows a start of a text, if the text starts with it. -/
def afterStart? : List Char → List Char → Option (List Char)
  | [], cs => some cs
  | _ :: _, [] => none
  | s :: ss, c :: cs => if s = c then afterStart? ss cs else none

/-- The part of a path below a base, or the whole path if it is not below the base. -/
def stripBase (base path : List Char) : List Char :=
  match afterStart? (trimEnd base) path with
  | some rest => if atBoundary rest then rest else path
  | none => path

/-- Whether the part of a path below the base is in a namespace already. -/
def hasNamespace (rest ns : List Char) : Bool :=
  match afterStart? ns (trimStart rest) with
  | some tail => atBoundary tail
  | none => false

/-- The path under which the page server keeps a page for callers of a namespace. -/
def underNamespace (base path ns : List Char) : List Char :=
  let rest := stripBase base path
  if hasNamespace rest ns then join base rest else join base (ns ++ rest)

/-- The last segment of a path: the first piece from its end that is not empty. -/
def finalSegment? (cs : List Char) : Option (List Char) :=
  (Text.pieces (· == '/') cs).reverse.find? fun piece => !piece.isEmpty

/-! ## Small facts -/

@[simp] theorem normalize_nil : normalize [] = ['/'] := rfl

@[simp] theorem segments_nil : segments [] = [] := rfl

@[simp] theorem segments_cons_slash (cs : List Char) : segments ('/' :: cs) = segments cs := by
  simp [segments, Text.pieces]

/-- A slash between two texts puts their segments side by side. -/
theorem segments_append_cons (front behind : List Char) :
    segments (front ++ '/' :: behind) = segments front ++ segments behind := by
  simp [segments, Text.pieces_append_cons]

/-- A text without a slash is its own segment. -/
theorem segments_of_free {cs : List Char} (hne : cs ≠ []) (h : '/' ∉ cs) : segments cs = [cs] := by
  have hfree : ∀ c ∈ cs, (c == '/') = false := fun c hc => by
    simp only [beq_eq_false_iff_ne, ne_eq]
    rintro rfl
    exact h hc
  simp [segments, Text.pieces_of_free hfree, hne]

/-- A segment is not empty and has no slash. -/
theorem of_mem_segments {cs segment : List Char} (h : segment ∈ segments cs) :
    segment ≠ [] ∧ '/' ∉ segment := by
  simp only [segments, List.mem_filter, Bool.not_eq_true', List.isEmpty_eq_false_iff] at h
  exact ⟨h.2, fun hs => by simpa using Text.free_of_mem_pieces h.1 '/' hs⟩

theorem segments_flatMap {l : List (List Char)} (h : ∀ s ∈ l, s ≠ [] ∧ '/' ∉ s) :
    segments (l.flatMap ('/' :: ·)) = l := by
  induction l with
  | nil => rfl
  | cons s l ih =>
    have hs := h s (by simp)
    have ih := ih fun t ht => h t (by simp [ht])
    cases l with
    | nil => simp [segments_of_free hs.1 hs.2]
    | cons t l =>
      simp only [List.flatMap_cons, List.cons_append, segments_cons_slash] at ih ⊢
      rw [segments_append_cons, segments_of_free hs.1 hs.2, ih, List.singleton_append]

theorem segments_ofSegments {l : List (List Char)} (h : ∀ s ∈ l, s ≠ [] ∧ '/' ∉ s) :
    segments (ofSegments l) = l := by
  cases l with
  | nil => rfl
  | cons s l => simpa [ofSegments] using segments_flatMap h

@[simp] theorem segments_normalize (cs : List Char) : segments (normalize cs) = segments cs :=
  segments_ofSegments fun _ => of_mem_segments

@[simp] theorem normalize_normalize (cs : List Char) : normalize (normalize cs) = normalize cs := by
  rw [normalize, segments_normalize, normalize]

@[simp] theorem segments_trimStart (cs : List Char) : segments (trimStart cs) = segments cs := by
  induction cs with
  | nil => rfl
  | cons c cs ih =>
    by_cases hc : c = '/'
    · subst hc
      simpa [trimStart] using ih
    · simp [trimStart, hc]

theorem segments_append_slash (cs : List Char) : segments (cs ++ ['/']) = segments cs := by
  rw [segments_append_cons, segments_nil, List.append_nil]

@[simp] theorem segments_trimEnd (cs : List Char) : segments (trimEnd cs) = segments cs := by
  have key : ∀ rev : List Char,
      segments (rev.dropWhile (· == '/')).reverse = segments rev.reverse := by
    intro rev
    induction rev with
    | nil => rfl
    | cons c rev ih =>
      by_cases hc : c = '/'
      · subst hc
        simpa [segments_append_slash] using ih
      · simp [hc]
  simpa [trimEnd] using key cs.reverse

@[simp] theorem segments_join (base rest : List Char) :
    segments (join base rest) = segments base ++ segments rest := by
  simp only [join]
  split
  · next h =>
    have hb : segments base = [] := by
      rw [← segments_trimEnd, List.isEmpty_iff.1 h, segments_nil]
    simp [hb]
  · split
    · next h =>
      have hr : segments rest = [] := by
        rw [← segments_trimStart, List.isEmpty_iff.1 h, segments_nil]
      simp [hr]
    · simp [segments_append_cons]

/-- What is found from the end is the last of the segments. -/
theorem finalSegment?_eq_getLast? (cs : List Char) : finalSegment? cs = (segments cs).getLast? := by
  rw [finalSegment?, ← List.head?_filter, List.filter_reverse, List.head?_reverse, segments]

@[simp] theorem afterStart?_self (cs : List Char) : afterStart? cs cs = some [] := by
  induction cs with
  | nil => rfl
  | cons c cs ih => simp [afterStart?, ih]

theorem eq_append_of_afterStart? {start cs rest : List Char}
    (h : afterStart? start cs = some rest) : cs = start ++ rest := by
  induction start generalizing cs with
  | nil => simpa [afterStart?] using h
  | cons s ss ih =>
    cases cs with
    | nil => simp [afterStart?] at h
    | cons c cs =>
      by_cases hc : s = c
      · subst hc
        simp only [afterStart?, if_true] at h
        simp [ih h]
      · simp [afterStart?, hc] at h

end Path
end Gatehouse
