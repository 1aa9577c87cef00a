import Gatehouse.Json.Basic

/-!
# Vocabularies

Providers, roles, statuses, applications and formats are all small closed sets of values, each of
which is known by one word.  `Vocabulary α` lists the values of `α` and says what each is called;
reading a word back is then a search of the list, and what holds of every such type is stated once.

* `word_of_ofWord?` — a word that reads as a value is the word of that value.
* `ofWord?_word` — if no two values share a word, the word of a value reads back as that value.
-/

set_option autoImplicit false

namespace Gatehouse

/-- A closed set of values, each known by a word. -/
class Vocabulary (α : Type) where
  /-- Every value, in the order in which they are listed to people. -/
  all : List α
  /-- The word for a value. -/
  word : α → String

namespace Vocabulary

variable {α : Type} [Vocabulary α]

/-- The value that a word stands for. -/
def ofWord? (w : String) : Option α :=
  (all : List α).find? fun a => word a == w

/-- The word of a value, as JSON. -/
def toJson (a : α) : Json :=
  Json.str (word a)

theorem word_of_ofWord? {w : String} {a : α} (h : ofWord? w = some a) : word a = w := by
  simpa using List.find?_some h

theorem find?_word {l : List α} (hd : (l.map word).Nodup) {a : α} (h : a ∈ l) :
    (l.find? fun b => word b == word a) = some a := by
  induction l with
  | nil => simp at h
  | cons b l ih =>
    simp only [List.map_cons, List.nodup_cons, List.mem_map, not_exists, not_and] at hd
    rcases List.mem_cons.1 h with rfl | h
    · simp
    · have hne : word b ≠ word a := fun e => hd.1 a h e.symm
      simp [hne, ih hd.2 h]

theorem ofWord?_word (hd : ((all : List α).map word).Nodup) {a : α} (h : a ∈ (all : List α)) :
    ofWord? (word a) = some a :=
  find?_word hd h

end Vocabulary
end Gatehouse
