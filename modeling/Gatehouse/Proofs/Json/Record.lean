import Gatehouse.Json.Record

/-!
# Fields of a record

A field that must be given, and that has one name, is a member of the object under that name, and
the object has no second member of that name (`Slots.members_of_required?`).
-/

set_option autoImplicit false

namespace Gatehouse
namespace Json

variable {α β : Type}

/-- The values under one name are the members under that key. -/
theorem valuesUnder_singleton (name : String) (ms : List (Option String × Json)) :
    valuesUnder [name] ms = (Json.object ms).members name := by
  simp only [valuesUnder, members]
  congr 1
  funext m
  cases m.1 with
  | none => simp
  | some key => simp

theorem valuesUnder_of_slot? {ms : List (Option String × Json)} {names : List String} {v : Json}
    (h : slot? ms names = some (some v)) : valuesUnder names ms = [v] := by
  simp only [slot?] at h
  split at h
  · cases h
  · next hv =>
    cases h
    exact hv
  · cases h

/-- Of a list that is mapped step by step, every answer belongs to the entry in its place. -/
theorem getElem?_of_mapM {f : α → Option β} {as : List α} {bs : List β} (h : as.mapM f = some bs)
    {i : Nat} {b : β} (hb : bs[i]? = some b) : ∃ a, as[i]? = some a ∧ f a = some b := by
  induction as generalizing bs i with
  | nil =>
    cases h
    cases hb
  | cons a as ih =>
    rw [List.mapM_cons] at h
    obtain ⟨c, hc, h⟩ := Option.bind_eq_some_iff.1 h
    obtain ⟨cs, hcs, h⟩ := Option.bind_eq_some_iff.1 h
    cases h
    cases i with
    | zero =>
      cases hb
      exact ⟨a, rfl, hc⟩
    | succ i => exact ih hcs hb

/-- A field that must be given is there once, and holds what was read. -/
theorem Slots.members_of_required? {source : Source} {layout : Layout}
    {ms : List (Option String × Json)} {slots : Slots}
    (hslots : slots? source layout (.object ms) = some slots)
    {i : Nat} {name : String} (hname : layout.names[i]? = some [name]) {read : Json → Option α}
    {a : α} (ha : slots.required? i read = some a) :
    ∃ v, (Json.object ms).members name = [v] ∧ read v = some a := by
  simp only [slots?] at hslots
  split at hslots
  · obtain ⟨values, hvalues, rfl⟩ := Option.map_eq_some_iff.1 hslots
    simp only [required?] at ha
    split at ha
    · next v hv =>
      obtain ⟨names, hnames, hslot⟩ := getElem?_of_mapM hvalues hv
      rw [hname] at hnames
      cases hnames
      exact ⟨v, by rw [← valuesUnder_singleton, valuesUnder_of_slot? hslot], ha⟩
    · cases ha
  · cases hslots

end Json
end Gatehouse
