import Gatehouse.Proofs.Json.Record
import Mathlib.Data.List.Nodup
import Mathlib.Data.List.Count

/-!
# What a layout makes of a tree

A tree that is read as a record is first laid out: every field of the record gets the value that the
tree has for it, if it has one.  That fails if an object has a field twice, or has a key that the
record does not admit.  Otherwise the fields are there to be picked, whatever the order of the keys.

* `exists_slots?_object_iff` — which objects can be laid out.
* `slots?_perm`, `slots?_append_of_unnamed` — neither the order of the keys nor keys that are no
  field's make a difference.
* `getElem?_of_slots?` — what a field gets: `fieldOf?`.
-/

set_option autoImplicit false

namespace Gatehouse
namespace Json

variable {α β : Type} {source : Source} {layout : Layout} {ms : List (Option String × Json)}
  {slots : Slots} {names : List String}

/-! ## Mapping step by step -/

/-- A list can be mapped step by step just if each of its entries can be. -/
theorem exists_mapM_iff {f : α → Option β} {as : List α} :
    (∃ bs, as.mapM f = some bs) ↔ ∀ a ∈ as, ∃ b, f a = some b := by
  induction as with
  | nil => exact iff_of_true ⟨[], rfl⟩ fun a ha => by cases ha
  | cons a as ih =>
    rw [List.forall_mem_cons, ← ih, List.mapM_cons]
    constructor
    · rintro ⟨bs, h⟩
      obtain ⟨b, hb, h⟩ := Option.bind_eq_some_iff.1 h
      obtain ⟨bs', hbs, -⟩ := Option.bind_eq_some_iff.1 h
      exact ⟨⟨b, hb⟩, bs', hbs⟩
    · rintro ⟨⟨b, hb⟩, bs, hbs⟩
      exact ⟨b :: bs, by rw [hb, hbs]; rfl⟩

theorem mapM_congr {f g : α → Option β} {as : List α} (h : ∀ a ∈ as, f a = g a) :
    as.mapM f = as.mapM g := by
  induction as with
  | nil => rfl
  | cons a as ih =>
    rw [List.forall_mem_cons] at h
    rw [List.mapM_cons, List.mapM_cons, h.1, ih h.2]

/-- Of a list that is mapped step by step, every entry has its answer in its place. -/
theorem exists_getElem?_of_mapM {f : α → Option β} {as : List α} {bs : List β}
    (h : as.mapM f = some bs) {i : Nat} {a : α} (ha : as[i]? = some a) :
    ∃ b, f a = some b ∧ bs[i]? = some b := by
  induction as generalizing bs i with
  | nil => cases ha
  | cons x as ih =>
    rw [List.mapM_cons] at h
    obtain ⟨y, hy, h⟩ := Option.bind_eq_some_iff.1 h
    obtain ⟨ys, hys, h⟩ := Option.bind_eq_some_iff.1 h
    cases h
    cases i with
    | zero =>
      cases ha
      exact ⟨y, hy, rfl⟩
    | succ i => exact ih hys ha

/-! ## Fields of objects -/

theorem slot?_eq_some_iff {slot : Option Json} :
    slot? ms names = some slot ↔
      (valuesUnder names ms).length ≤ 1 ∧ slot = (valuesUnder names ms).head? := by
  rw [slot?]
  cases valuesUnder names ms with
  | nil => simp [eq_comm]
  | cons v vs =>
    cases vs with
    | nil => simp [eq_comm]
    | cons w ws => simp

/-- **An object can be laid out just if every key is admitted and no field is given twice.** -/
theorem exists_slots?_object_iff :
    (∃ slots, slots? source layout (.object ms) = some slots) ↔
      (∀ m ∈ ms, layout.admits m.1 = true) ∧
        ∀ names ∈ layout.names, (valuesUnder names ms).length ≤ 1 := by
  have hfields : (∀ names ∈ layout.names, ∃ slot, slot? ms names = some slot) ↔
      ∀ names ∈ layout.names, (valuesUnder names ms).length ≤ 1 := by
    refine forall_congr' fun names => imp_congr_right fun _ => ?_
    simp only [slot?_eq_some_iff, exists_and_left, exists_eq, and_true]
  rw [← hfields, ← exists_mapM_iff]
  simp only [slots?]
  by_cases hadmits : (ms.all fun m => layout.admits m.1) = true
  · rw [if_pos hadmits]
    simp only [Option.map_eq_some_iff]
    constructor
    · rintro ⟨-, values, hvalues, -⟩
      exact ⟨List.all_eq_true.1 hadmits, values, hvalues⟩
    · rintro ⟨-, values, hvalues⟩
      exact ⟨_, values, hvalues, rfl⟩
  · rw [if_neg hadmits]
    refine iff_of_false ?_ fun h => hadmits (List.all_eq_true.2 h.1)
    rintro ⟨slots, h⟩
    cases h

/-- The value that a tree has for the field in some place of a record, which has some names: in an
object what stands under one of the names, in an array what stands in the place. -/
def fieldOf? (i : Nat) (names : List String) : Json → Option Json
  | .object ms => (valuesUnder names ms).head?
  | .array es => es[i]?
  | _ => none

/-- **What a field gets is what the tree has for it.** -/
theorem getElem?_of_slots? {v : Json} (h : slots? source layout v = some slots) {i : Nat}
    (hi : layout.names[i]? = some names) : slots.values[i]? = some (v.fieldOf? i names) := by
  cases v with
  | object ms =>
    simp only [slots?] at h
    split at h
    · obtain ⟨values, hvalues, rfl⟩ := Option.map_eq_some_iff.1 h
      obtain ⟨slot, hslot, hvalue⟩ := exists_getElem?_of_mapM hvalues hi
      rw [hvalue, (slot?_eq_some_iff.1 hslot).2]
      rfl
    · cases h
  | array es =>
    simp only [slots?] at h
    split at h
    · cases h
      obtain ⟨hlt, -⟩ := List.getElem?_eq_some_iff.1 hi
      simp only [fieldOf?]
      rw [List.getElem?_take_of_lt hlt, List.getElem?_append]
      split
      · next hles =>
        rw [List.length_map] at hles
        rw [List.getElem?_map, List.getElem?_eq_getElem hles]
        rfl
      · next hles =>
        rw [List.length_map] at hles
        rw [List.length_map, List.getElem?_eq_none (Nat.le_of_not_lt hles),
          List.getElem?_replicate_of_lt (Nat.lt_of_le_of_lt (Nat.sub_le _ _) hlt)]
    · cases h
  | null | bool | number | string => cases h

/-- A field with a default is read if the tree has a value for it. -/
theorem Slots.withDefault?_of_slots? {v : Json} (h : slots? source layout v = some slots) {i : Nat}
    (hi : layout.names[i]? = some names) (default : α) (read : Json → Option α) :
    slots.withDefault? i default read =
      match v.fieldOf? i names with
      | some w => read w
      | none => some default := by
  rw [withDefault?, getElem?_of_slots? h hi]
  cases v.fieldOf? i names with
  | none | some w => rfl

/-! ## Objects in any order -/

/-- A field gets the same in whatever order an object has its members. -/
theorem slot?_perm {ns : List (Option String × Json)} (h : ms.Perm ns) (names : List String) :
    slot? ms names = slot? ns names := by
  have hvalues : (valuesUnder names ms).Perm (valuesUnder names ns) := h.filterMap _
  refine Option.ext fun slot => ?_
  rw [slot?_eq_some_iff, slot?_eq_some_iff, hvalues.length_eq]
  refine and_congr_right fun hone => ?_
  have hsame : valuesUnder names ms = valuesUnder names ns := by
    cases hns : valuesUnder names ns with
    | nil =>
      rw [hns] at hvalues
      exact hvalues.eq_nil
    | cons v vs =>
      rw [hns] at hvalues hone
      obtain rfl : vs = [] := by simpa using hone
      exact List.perm_singleton.1 hvalues
  rw [hsame]

/-- **The order of the keys does not matter.** -/
theorem slots?_perm {ns : List (Option String × Json)} (h : ms.Perm ns) :
    slots? source layout (.object ms) = slots? source layout (.object ns) := by
  have hslot : slot? ms = slot? ns := funext (slot?_perm h)
  simp only [slots?, h.all_eq, hslot]

/-- Members that have none of a field's names add nothing to it. -/
theorem valuesUnder_append_of_unnamed {others : List (String × Json)}
    (hothers : ∀ m ∈ others, m.1 ∉ names) :
    valuesUnder names (ms ++ others.map fun m => (some m.1, m.2)) = valuesUnder names ms := by
  have hnone : valuesUnder names (others.map fun m => (some m.1, m.2)) = [] := by
    refine List.filterMap_eq_nil_iff.2 fun m hm => ?_
    obtain ⟨n, hn, rfl⟩ := List.mem_map.1 hm
    exact if_neg fun hname => hothers n hn (List.elem_iff.1 hname)
  simp only [valuesUnder] at hnone ⊢
  rw [List.filterMap_append, hnone, List.append_nil]

/-- **Keys that are no field's are passed over** by a record that is not closed. -/
theorem slots?_append_of_unnamed {others : List (String × Json)} (hopen : layout.closed = false)
    (hothers : ∀ m ∈ others, ∀ names ∈ layout.names, m.1 ∉ names) :
    slots? source layout (.object (ms ++ others.map fun m => (some m.1, m.2))) =
      slots? source layout (.object ms) := by
  have hslot : ∀ names ∈ layout.names,
      slot? (ms ++ others.map fun m => (some m.1, m.2)) names = slot? ms names := by
    intro names hnames
    rw [slot?, valuesUnder_append_of_unnamed fun m hm => hothers m hm names hnames, slot?]
  have hadmitted :
      ((others.map fun m => (some m.1, m.2)).all fun m => layout.admits m.1) = true := by
    simp [Layout.admits, hopen]
  simp only [slots?, List.all_append, hadmitted, Bool.and_true, mapM_congr hslot]

/-- **A field that is given twice is an error,** whichever of its names are used. -/
theorem slots?_eq_none_of_twice {a b : String} {v w : Json} (hnames : names ∈ layout.names)
    (ha : a ∈ names) (hb : b ∈ names) (h : [(some a, v), (some b, w)].Sublist ms) :
    slots? source layout (.object ms) = none := by
  have htwo : valuesUnder names [(some a, v), (some b, w)] = [v, w] := by
    simp [valuesUnder, ha, hb]
  have hsub : (valuesUnder names [(some a, v), (some b, w)]).Sublist (valuesUnder names ms) :=
    h.filterMap _
  rw [htwo] at hsub
  refine Option.eq_none_iff_forall_ne_some.2 fun slots hslots => ?_
  have hone := (exists_slots?_object_iff.1 ⟨slots, hslots⟩).2 names hnames
  have hlength := hsub.length_le
  simp only [List.length_cons, List.length_nil] at hlength
  omega

/-! ## Closed records with one name for each field -/

theorem length_valuesUnder_singleton (name : String) (ms : List (Option String × Json)) :
    (valuesUnder [name] ms).length = (ms.map Prod.fst).count (some name) := by
  induction ms with
  | nil => rfl
  | cons m ms ih =>
    rw [List.map_cons, List.count_cons, ← ih]
    cases hkey : m.1 with
    | none => simp [valuesUnder, hkey]
    | some key =>
      by_cases hname : key = name
      · simp [valuesUnder, hkey, hname]
      · simp [valuesUnder, hkey, hname]

/-- **An object can be laid out as a closed record just if its keys are fields and no two of them
are the same.** -/
theorem exists_slots?_closed_iff :
    (∃ slots, slots? source ⟨names.map fun n => [n], true⟩ (.object ms) = some slots) ↔
      (∀ m ∈ ms, ∃ name ∈ names, m.1 = some name) ∧ (ms.map Prod.fst).Nodup := by
  have hadmits (key : Option String) :
      Layout.admits ⟨names.map fun n => [n], true⟩ key = true ↔
        ∃ name ∈ names, key = some name := by
    cases key with
    | none => simp [Layout.admits]
    | some k => simp [Layout.admits]
  rw [exists_slots?_object_iff]
  simp only [hadmits, List.forall_mem_map, length_valuesUnder_singleton]
  refine and_congr_right fun hknown => ?_
  rw [List.nodup_iff_count_le_one]
  refine ⟨fun h key => ?_, fun h name _ => h (some name)⟩
  by_cases hmem : key ∈ ms.map Prod.fst
  · obtain ⟨m, hm, rfl⟩ := List.mem_map.1 hmem
    obtain ⟨name, hname, hkey⟩ := hknown m hm
    rw [hkey]
    exact h name hname
  · rw [List.count_eq_zero_of_not_mem hmem]
    exact Nat.zero_le 1

/-- The value that a tree has for a field of a record in which every field has one name. -/
def field? (names : List String) (name : String) (v : Json) : Option Json :=
  v.fieldOf? (names.idxOf name) [name]

/-- In an object that is what stands under the name. -/
theorem field?_object (names : List String) (name : String) (ms : List (Option String × Json)) :
    (Json.object ms).field? names name = ((Json.object ms).members name).head? := by
  rw [field?, fieldOf?, valuesUnder_singleton]

/-- A member whose key is not repeated is what stands under the key. -/
theorem head?_members_of_mem {key : String} {v : Json} (hkeys : (ms.map Prod.fst).Nodup)
    (h : (some key, v) ∈ ms) : ((Json.object ms).members key).head? = some v := by
  induction ms with
  | nil => cases h
  | cons m ms ih =>
    rw [List.map_cons, List.nodup_cons] at hkeys
    rcases List.mem_cons.1 h with rfl | h
    · simp [members]
    · have hother : m.1 ≠ some key := fun heq => hkeys.1 (heq ▸ List.mem_map_of_mem h)
      have hrest := ih hkeys.2 h
      simp only [members] at hrest
      simp [members, hother, hrest]

/-- Nothing stands under a key that no member has. -/
theorem members_of_not_mem {key : String} (h : some key ∉ ms.map Prod.fst) :
    (Json.object ms).members key = [] := by
  refine List.filterMap_eq_nil_iff.2 fun m hm => if_neg fun heq => h ?_
  rw [← heq]
  exact List.mem_map_of_mem hm

/-- What an object has for a field, of whose keys none is repeated. -/
theorem field?_obj_of_mem {ms : List (String × Json)} {key : String} {v : Json}
    (hkeys : (ms.map Prod.fst).Nodup) (h : (key, v) ∈ ms) : (obj ms).field? names key = some v := by
  rw [obj, field?_object]
  refine head?_members_of_mem ?_ (List.mem_map.2 ⟨(key, v), h, rfl⟩)
  have hsome := hkeys.map (f := some) fun _ _ heq => Option.some.inj heq
  rwa [List.map_map] at hsome ⊢

theorem field?_obj_of_not_mem {ms : List (String × Json)} {key : String}
    (h : key ∉ ms.map Prod.fst) :
    (obj ms).field? names key = none := by
  rw [obj, field?_object, members_of_not_mem]
  · rfl
  · intro hmem
    obtain ⟨m, hm, hkey⟩ := List.mem_map.1 hmem
    obtain ⟨n, hn, rfl⟩ := List.mem_map.1 hm
    cases hkey
    exact h (List.mem_map_of_mem hn)

theorem Slots.withDefault?_of_closed {v : Json}
    (h : slots? source ⟨names.map fun n => [n], true⟩ v = some slots)
    (hnames : names.Nodup) {i : Nat}
    {name : String} (hi : names[i]? = some name) (default : α) (read : Json → Option α) :
    slots.withDefault? i default read =
      match v.field? names name with
      | some w => read w
      | none => some default := by
  obtain ⟨hlt, hname⟩ := List.getElem?_eq_some_iff.1 hi
  have hplace : names.idxOf name = i := by rw [← hname, hnames.idxOf_getElem i hlt]
  have hlayout : (names.map fun n => [n])[i]? = some [name] := by rw [List.getElem?_map, hi]; rfl
  rw [withDefault?_of_slots? h hlayout, field?, hplace]

end Json
end Gatehouse
