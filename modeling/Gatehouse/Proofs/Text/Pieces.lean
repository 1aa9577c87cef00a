import Gatehouse.Text.Pieces

/-!
# Pieces of texts that are put together

Where a text is put behind another, the last piece of the first and the first piece of the second
grow together, and all other pieces stay.  And where every character is replaced by some others, but
separators by themselves only, the pieces are those of the text before with their characters
replaced.

* `exists_pieces_append`, `cut_append_of_free` — pieces and cuts of texts put together.
* `pieces_flatMap`, `cut_flatMap` — pieces and cuts of a text with its characters replaced.
-/

set_option autoImplicit false

namespace Gatehouse
namespace Text

variable {α : Type} {isSep : α → Bool}

theorem pieces_cons_of_not_sep {c : α} (hc : isSep c = false) {cs piece : List α}
    {rest : List (List α)} (h : pieces isSep cs = piece :: rest) :
    pieces isSep (c :: cs) = (c :: piece) :: rest := by
  rw [pieces, hc, if_neg Bool.false_ne_true, h]

/-- Where two texts meet, two pieces become one. -/
theorem exists_pieces_append (front : List α) {behind piece : List α} {rest : List (List α)}
    (h : pieces isSep behind = piece :: rest) :
    ∃ init last, pieces isSep front = init ++ [last] ∧
      pieces isSep (front ++ behind) = init ++ (last ++ piece) :: rest := by
  induction front with
  | nil => exact ⟨[], [], rfl, h⟩
  | cons c front ih =>
    obtain ⟨init, last, hfront, hboth⟩ := ih
    cases hc : isSep c with
    | true =>
      refine ⟨[] :: init, last, ?_, ?_⟩
      · rw [pieces_cons_sep hc, hfront, List.cons_append]
      · rw [List.cons_append, pieces_cons_sep hc, hboth, List.cons_append]
    | false =>
      cases init with
      | nil =>
        exact ⟨[], c :: last, pieces_cons_of_not_sep hc hfront, pieces_cons_of_not_sep hc hboth⟩
      | cons first init =>
        exact ⟨(c :: first) :: init, last, pieces_cons_of_not_sep hc hfront,
          pieces_cons_of_not_sep hc hboth⟩

theorem pieces_append_of_free {front : List α} (hfront : ∀ c ∈ front, isSep c = false)
    {behind piece : List α} {rest : List (List α)} (h : pieces isSep behind = piece :: rest) :
    pieces isSep (front ++ behind) = (front ++ piece) :: rest := by
  induction front with
  | nil => exact h
  | cons c front ih =>
    exact pieces_cons_of_not_sep (hfront c List.mem_cons_self)
      (ih fun d hd => hfront d (List.mem_cons_of_mem c hd))

/-- Replacing characters does not change where a text is separated. -/
theorem pieces_flatMap {f : α → List α} (hsep : ∀ c, isSep c = true → f c = [c])
    (hfree : ∀ c, isSep c = false → ∀ d ∈ f c, isSep d = false) (cs : List α) :
    pieces isSep (cs.flatMap f) = (pieces isSep cs).map fun piece => piece.flatMap f := by
  induction cs with
  | nil => rfl
  | cons c cs ih =>
    rw [List.flatMap_cons]
    cases hc : isSep c with
    | true =>
      rw [hsep c hc, List.singleton_append, pieces_cons_sep hc, pieces_cons_sep hc, ih]
      rfl
    | false =>
      obtain ⟨piece, rest, hpieces⟩ := List.exists_cons_of_ne_nil (pieces_ne_nil isSep cs)
      rw [hpieces, List.map_cons] at ih
      rw [pieces_append_of_free (hfree c hc) ih, pieces_cons_of_not_sep hc hpieces]
      rfl

theorem cut_append_of_free {front : List α} (hfront : ∀ c ∈ front, isSep c = false)
    (behind : List α) :
    cut isSep (front ++ behind) = (front ++ (cut isSep behind).1, (cut isSep behind).2) := by
  induction front with
  | nil => rfl
  | cons c front ih =>
    rw [List.cons_append, cut, hfront c List.mem_cons_self, if_neg Bool.false_ne_true,
      ih fun d hd => hfront d (List.mem_cons_of_mem c hd)]
    rfl

/-- A text that is cut is still cut there when more is put behind it. -/
theorem cut_append_of_some {front behind : List α} {cs : List α}
    (h : cut isSep cs = (front, some behind)) (more : List α) :
    cut isSep (cs ++ more) = (front, some (behind ++ more)) := by
  induction cs generalizing front with
  | nil => cases h
  | cons c cs ih =>
    rw [cut] at h
    rw [List.cons_append, cut]
    split at h
    · next hc =>
      cases h
      rw [if_pos hc]
    · next hc =>
      obtain ⟨hfront, hbehind⟩ := Prod.mk.inj h
      rw [if_neg hc, ih (Prod.ext rfl hbehind), ← hfront]

/-- No separator stands in front of the first one. -/
theorem free_of_cut (cs : List α) : ∀ c ∈ (cut isSep cs).1, isSep c = false := by
  induction cs with
  | nil => simp [cut]
  | cons c cs ih =>
    cases hc : isSep c with
    | true => simp [cut, hc]
    | false => simpa [cut, hc] using ih

theorem free_of_cut_none {cs : List α} (h : (cut isSep cs).2 = none) :
    ∀ c ∈ cs, isSep c = false := by
  have hwhole : cs = (cut isSep cs).1 := cut_none (Prod.ext rfl h)
  rw [hwhole]
  exact free_of_cut cs

theorem cut_cons_sep {c : α} (hc : isSep c = true) (cs : List α) :
    cut isSep (c :: cs) = ([], some cs) := by
  rw [cut, if_pos hc]

/-- Replacing characters does not change where a text is cut. -/
theorem cut_flatMap {f : α → List α} (hsep : ∀ c, isSep c = true → f c = [c])
    (hfree : ∀ c, isSep c = false → ∀ d ∈ f c, isSep d = false) (cs : List α) :
    cut isSep (cs.flatMap f) =
      ((cut isSep cs).1.flatMap f, (cut isSep cs).2.map fun behind => behind.flatMap f) := by
  induction cs with
  | nil => rfl
  | cons c cs ih =>
    rw [List.flatMap_cons]
    cases hc : isSep c with
    | true =>
      rw [hsep c hc, List.singleton_append, cut_cons_sep hc, cut_cons_sep hc]
      rfl
    | false =>
      rw [cut_append_of_free (hfree c hc), ih, cut, hc, if_neg Bool.false_ne_true]
      rfl

end Text
end Gatehouse
