/-!
# Pieces

Many texts are lists in disguise: segments of a path between slashes, pairs of a query between `&`,
labels of a name between points.  `pieces` cuts a text at every separator, and `cut` at the first
one.

* `pieces_ne_nil` — there is always at least one piece, and it may be empty.
* `pieces_append_cons` — a separator between two texts separates their pieces too.
* `pieces_of_free`, `free_of_mem_pieces` — a text without separators is one piece, and every piece
  is such a text.
* `cut_none`, `cut_some` — the pieces of a cut make up the text again.
-/

set_option autoImplicit false

namespace Gatehouse
namespace Text

/-- The pieces of a text between its separators. -/
def pieces {α : Type} (isSep : α → Bool) : List α → List (List α)
  | [] => [[]]
  | c :: cs =>
    if isSep c then [] :: pieces isSep cs
    else
      match pieces isSep cs with
      | [] => [[c]]
      | p :: ps => (c :: p) :: ps

/-- What stands in front of the first separator, and what stands behind it if there is one. -/
def cut {α : Type} (isSep : α → Bool) : List α → List α × Option (List α)
  | [] => ([], none)
  | c :: cs =>
    if isSep c then ([], some cs)
    else
      let r := cut isSep cs
      (c :: r.1, r.2)

/-- What stands in front of the first separator and what stands behind it, if there is one. -/
def cut? {α : Type} (isSep : α → Bool) (cs : List α) : Option (List α × List α) :=
  let r := cut isSep cs
  r.2.map fun behind => (r.1, behind)

/-! ## Small facts -/

-- the lemmas below all start from these equations
attribute [local simp] pieces cut

@[simp] theorem pieces_nil {α : Type} (isSep : α → Bool) : pieces isSep [] = [[]] := rfl

theorem pieces_ne_nil {α : Type} (isSep : α → Bool) (cs : List α) : pieces isSep cs ≠ [] := by
  cases cs with
  | nil => simp [pieces]
  | cons c cs =>
    simp only [pieces]
    split
    · simp
    · split <;> simp

theorem pieces_cons_sep {α : Type} {isSep : α → Bool} {c : α} (hc : isSep c = true) (cs : List α) :
    pieces isSep (c :: cs) = [] :: pieces isSep cs := by
  simp [pieces, hc]

theorem pieces_append_cons {α : Type} {isSep : α → Bool} {c : α} (hc : isSep c = true)
    (front behind : List α) :
    pieces isSep (front ++ c :: behind) = pieces isSep front ++ pieces isSep behind := by
  induction front with
  | nil => simp [pieces, hc]
  | cons d front ih =>
    by_cases hd : isSep d = true
    · simp [pieces, hd, ih]
    · simp only [List.cons_append, pieces, hd, Bool.false_eq_true, if_false, ih]
      cases h : pieces isSep front with
      | nil => exact absurd h (pieces_ne_nil isSep front)
      | cons p ps => simp

theorem pieces_of_free {α : Type} {isSep : α → Bool} {cs : List α}
    (h : ∀ c ∈ cs, isSep c = false) : pieces isSep cs = [cs] := by
  induction cs with
  | nil => rfl
  | cons c cs ih =>
    have hc : isSep c = false := h c (by simp)
    simp [pieces, hc, ih fun d hd => h d (by simp [hd])]

theorem free_of_mem_pieces {α : Type} {isSep : α → Bool} {cs piece : List α}
    (h : piece ∈ pieces isSep cs) : ∀ c ∈ piece, isSep c = false := by
  induction cs generalizing piece with
  | nil => simp_all [pieces]
  | cons c cs ih =>
    by_cases hc : isSep c = true
    · simp only [pieces, hc, if_true, List.mem_cons] at h
      rcases h with rfl | h
      · simp
      · exact ih h
    · simp only [pieces, hc, Bool.false_eq_true, if_false] at h
      cases hp : pieces isSep cs with
      | nil => exact absurd hp (pieces_ne_nil isSep cs)
      | cons p ps =>
        simp only [hp, List.mem_cons] at h ih
        rcases h with rfl | h
        · intro d hd
          rcases List.mem_cons.1 hd with rfl | hd
          · simpa using hc
          · exact ih (Or.inl rfl) d hd
        · exact ih (Or.inr h)

theorem cut_none {α : Type} {isSep : α → Bool} {cs front : List α}
    (h : cut isSep cs = (front, none)) : cs = front := by
  induction cs generalizing front with
  | nil => simpa [cut] using h
  | cons c cs ih =>
    by_cases hc : isSep c = true
    · simp [cut, hc] at h
    · simp only [cut, hc, Bool.false_eq_true, if_false, Prod.mk.injEq] at h
      rw [← h.1]
      exact congrArg (c :: ·) (ih (Prod.ext rfl h.2))

theorem cut_some {α : Type} {isSep : α → Bool} {cs front behind : List α}
    (h : cut isSep cs = (front, some behind)) :
    ∃ c, isSep c = true ∧ cs = front ++ c :: behind := by
  induction cs generalizing front with
  | nil => simp [cut] at h
  | cons c cs ih =>
    by_cases hc : isSep c = true
    · simp only [cut, hc, if_true, Prod.mk.injEq, Option.some.injEq] at h
      exact ⟨c, hc, by simp [← h.1, h.2]⟩
    · simp only [cut, hc, Bool.false_eq_true, if_false, Prod.mk.injEq] at h
      obtain ⟨d, hd, hcs⟩ := ih (Prod.ext rfl h.2)
      exact ⟨d, hd, by rw [← h.1, List.cons_append, ← hcs]⟩

end Text
end Gatehouse
