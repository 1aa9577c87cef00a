import Gatehouse.Http.Exchange
import Gatehouse.Proofs.Text.Bytes

/-!
# Header fields through filters

A header is a list of values under each name.  On its way through the gateway it is filtered by
name, and values are put under names in place of those that were there.  Either is said here name by
name: what a name is left with.  And not every text can be a value.

* `getAll_filter`, `getAll_without` — a filter leaves a name all of its values or none.
* `getAll_replacedBy` — a name is left with what replaces its values, or with what it had.
* `getAll_foldl_insert` — a name is left with the last value that is put under it, and keeps those
  it had if there is none.
* `names_insert_subset`, `mem_names_insert` — an insertion brings in no name but its own.
* `value?_bytes` — a text can be a value just if it has no control characters but tabs.
-/

set_option autoImplicit false

namespace Gatehouse
namespace Headers

/-- The names under which values stand. -/
def names (h : Headers) : List String :=
  h.fields.map Header.name

theorem getAll_filter (h : Headers) (keep : String → Bool) (name : String) :
    getAll ⟨h.fields.filter fun f => keep f.name⟩ name =
      if keep name then h.getAll name else [] := by
  simp only [getAll, List.filterMap_filter]
  cases hkeep : keep name with
  | true =>
    rw [if_pos rfl]
    congr 1
    funext f
    by_cases hf : f.name = name
    · rw [hf, hkeep, if_pos rfl]
    · rw [if_neg hf, ite_self]
  | false =>
    refine List.filterMap_eq_nil_iff.2 fun f _ => ?_
    by_cases hf : f.name = name
    · rw [hf, hkeep, if_neg Bool.false_ne_true]
    · rw [if_neg hf, ite_self]

theorem getAll_without (h : Headers) (names : List String) (name : String) :
    (h.without names).getAll name = if name ∈ names then [] else h.getAll name := by
  refine (getAll_filter h (fun other => !names.contains other) name).trans ?_
  by_cases hname : name ∈ names <;> simp [hname]

/-- A name is left with the values that replace its own, if there are any. -/
theorem getAll_replacedBy (h other : Headers) (name : String) :
    (h.replacedBy other).getAll name =
      if other.getAll name = [] then h.getAll name else other.getAll name := by
  have hkept := getAll_filter h (fun name => !other.contains name) name
  rw [replacedBy, getAll, List.filterMap_append]
  refine (congrArg (· ++ other.getAll name) hkept).trans ?_
  by_cases hnone : other.getAll name = []
  · have hfree : other.contains name = false :=
      Bool.eq_false_iff.2 fun hthere => (contains_iff other name).1 hthere hnone
    rw [hfree, hnone, if_pos rfl, List.append_nil]
    rfl
  · rw [(contains_iff other name).2 hnone, if_neg hnone]
    rfl

theorem getAll_eq_nil_iff {h : Headers} {name : String} : h.getAll name = [] ↔ name ∉ h.names := by
  rw [getAll, List.filterMap_eq_nil_iff, names, List.mem_map, not_exists]
  refine forall_congr' fun f => ?_
  rw [not_and]
  refine forall_congr' fun _ => ?_
  by_cases hf : f.name = name <;> simp [hf]

theorem mem_names_iff {h : Headers} {name : String} : name ∈ h.names ↔ h.getAll name ≠ [] := by
  rw [ne_eq, getAll_eq_nil_iff, Classical.not_not]

/-- The value that is put under a name last is the one that stays. -/
theorem getAll_foldl_insert (fields : List Header) (start : Headers) (name : String) :
    (fields.foldl (fun h f => h.insert f.name f.value) start).getAll name =
      match (getAll ⟨fields⟩ name).getLast? with
      | some value => [value]
      | none => start.getAll name := by
  induction fields generalizing start with
  | nil => rfl
  | cons f fields ih =>
    rw [List.foldl_cons, ih]
    by_cases hname : f.name = name
    · subst hname
      have hall : getAll ⟨f :: fields⟩ f.name = f.value :: getAll ⟨fields⟩ f.name :=
        List.filterMap_cons_some (if_pos rfl)
      rw [hall, List.getLast?_cons, getAll_insert_self]
      cases (getAll ⟨fields⟩ f.name).getLast? with
      | none | some value => rfl
    · have hall : getAll ⟨f :: fields⟩ name = getAll ⟨fields⟩ name :=
        List.filterMap_cons_none (if_neg hname)
      rw [hall, getAll_insert_of_ne start hname]

/-- A name under which nothing is put keeps its values. -/
theorem getAll_foldl_insert_of_notMem {fields : List Header} {name : String}
    (h : name ∉ fields.map Header.name) (start : Headers) :
    (fields.foldl (fun h f => h.insert f.name f.value) start).getAll name = start.getAll name := by
  have hnone : getAll ⟨fields⟩ name = [] := by
    refine List.filterMap_eq_nil_iff.2 fun f hf => if_neg ?_
    rintro rfl
    exact h (List.mem_map_of_mem hf)
  rw [getAll_foldl_insert, hnone]
  rfl

theorem mem_names_remove {h : Headers} {name other : String} :
    other ∈ (h.remove name).names ↔ other ≠ name ∧ other ∈ h.names := by
  simp only [names, remove, List.mem_map, List.mem_filter, bne_iff_ne]
  constructor
  · rintro ⟨f, ⟨hf, hne⟩, rfl⟩
    exact ⟨hne, f, hf, rfl⟩
  · rintro ⟨hne, f, hf, rfl⟩
    exact ⟨f, ⟨hf, hne⟩, rfl⟩

/-- The names after an insertion are its own and those that there were. -/
theorem mem_names_insert {h : Headers} {name other : String} {value : List UInt8} :
    other ∈ (h.insert name value).names ↔ other = name ∨ other ∈ h.names := by
  have hall : (h.insert name value).names = (h.remove name).names ++ [name] := by
    simp only [names, insert, append, List.map_append, List.map_cons, List.map_nil]
  rw [hall, List.mem_append, mem_names_remove, List.mem_singleton]
  by_cases hname : other = name
  · simp [hname]
  · simp [hname]

theorem mem_names_of_mem_without {h : Headers} {names' : List String} {name : String}
    (hname : name ∈ (h.without names').names) : name ∈ h.names := by
  obtain ⟨f, hf, rfl⟩ := List.mem_map.1 hname
  exact List.mem_map_of_mem (List.mem_filter.1 hf).1

/-- The names after some fields have been replaced are the old and the new ones. -/
theorem mem_names_replacedBy {h other : Headers} {name : String} :
    name ∈ (h.replacedBy other).names ↔ name ∈ h.names ∨ name ∈ other.names := by
  by_cases hnone : other.getAll name = []
  · have hsame := getAll_replacedBy h other name
    rw [if_pos hnone] at hsame
    rw [or_iff_left (getAll_eq_nil_iff.1 hnone), mem_names_iff, mem_names_iff, hsame]
  · have hnew := getAll_replacedBy h other name
    rw [if_neg hnone] at hnew
    rw [mem_names_iff, hnew, mem_names_iff]
    exact iff_of_true hnone (Or.inr (mem_names_iff.2 hnone))

theorem mem_names_foldl_insert {fields : List Header} {start : Headers} {name : String} :
    name ∈ (fields.foldl (fun h f => h.insert f.name f.value) start).names ↔
      name ∈ fields.map Header.name ∨ name ∈ start.names := by
  induction fields generalizing start with
  | nil => simp
  | cons f fields ih =>
    rw [List.foldl_cons, ih, mem_names_insert, List.map_cons, List.mem_cons, or_left_comm, or_assoc]

theorem names_insert_subset (h : Headers) (name : String) (value : List UInt8) :
    (h.insert name value).names ⊆ name :: h.names := by
  intro other hother
  exact List.mem_cons.2 (mem_names_insert.1 hother)

/-- What is sent along for a URL has one name. -/
theorem eq_of_mem_loginFields {url : Url} {name : String}
    (h : name ∈ (Http.loginFields url).names) : name = "authorization" :=
  Decidable.byContradiction fun hname =>
    mem_names_iff.1 h (Http.getAll_loginFields_of_ne hname url)

/-! ## Texts as values -/

/-- Whether a character may stand in a header value that is given as text. -/
def isValueChar (c : Char) : Bool :=
  c == '\t' || (' ' ≤ c && c != '\x7f')

/-- The bytes of a character may stand in a header value just if the character may. -/
theorem all_isValueByte_utf8EncodeChar (c : Char) :
    (String.utf8EncodeChar c).all isValueByte = isValueChar c := by
  by_cases hascii : c.toNat < 0x80
  · have hall : ∀ n < 0x80, isValueByte (UInt8.ofNat n) = isValueChar (Char.ofNat n) := by
      decide +kernel
    have hc := hall c.toNat hascii
    rw [Char.ofNat_toNat] at hc
    rw [Text.utf8EncodeChar_of_ascii hascii, List.all_cons, List.all_nil, Bool.and_true, hc]
  · have hhigh : 0x80 ≤ c.toNat := Nat.le_of_not_lt hascii
    have hbytes : (String.utf8EncodeChar c).all isValueByte = true := by
      refine List.all_eq_true.2 fun b hb => ?_
      have hb := UInt8.le_iff_toNat_le.1 (Text.le_of_mem_utf8EncodeChar hhigh hb)
      have hall : ∀ n < 256, 0x80 ≤ n → isValueByte (UInt8.ofNat n) = true := by decide +kernel
      have hvalue := hall b.toNat b.toNat_lt hb
      rwa [UInt8.ofNat_toNat] at hvalue
    have hblank : ' ' ≤ c := Nat.le_trans (by decide : (0x20 : Nat) ≤ 0x80) hhigh
    have hdelete : c ≠ '\x7f' := by
      rintro rfl
      exact hascii (by decide)
    simp [hbytes, isValueChar, hblank, hdelete]

/-- **A text can be a header value just if all of its characters may stand in one.** -/
theorem value?_bytes (s : String) :
    value? (Text.bytes s) = if s.toList.all isValueChar then some (Text.bytes s) else none := by
  have hall : ∀ cs : List Char,
      (cs.flatMap String.utf8EncodeChar).all isValueByte = cs.all isValueChar := by
    intro cs
    induction cs with
    | nil => rfl
    | cons c cs ih =>
      rw [List.flatMap_cons, List.all_append, all_isValueByte_utf8EncodeChar, ih, List.all_cons]
  rw [value?, Text.bytes_eq_flatMap, hall]

theorem value?_bytes_of_forall {s : String} (h : ∀ c ∈ s.toList, isValueChar c = true) :
    value? (Text.bytes s) = some (Text.bytes s) := by
  rw [value?_bytes, if_pos (List.all_eq_true.2 h)]

theorem value?_bytes_of_not_forall {s : String} (h : ¬ ∀ c ∈ s.toList, isValueChar c = true) :
    value? (Text.bytes s) = none := by
  rw [value?_bytes, if_neg (by rwa [List.all_eq_true])]

end Headers
end Gatehouse
