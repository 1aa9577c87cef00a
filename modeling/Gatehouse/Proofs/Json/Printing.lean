import Gatehouse.Json.Printer
import Gatehouse.Proofs.Json.Grammar

/-!
# What is written is a JSON text

The writer makes one of the choices that the grammar leaves: no blanks, and an escape only where
there has to be one.  So what it writes for a value is a text of that value, if all the texts and
numbers in the value can be written.  This is put together along the value: texts, natural numbers
and words always can be, and an array or an object can be if its parts can (`writes_array`,
`writes_obj`).
-/

set_option autoImplicit false

namespace Gatehouse
namespace Json

/-- Blanks may be left out. -/
theorem areBlanks_nil : AreBlanks [] := by
  intro c hc
  cases hc

/-! ## Texts -/

theorem spellsDigit_hexChar {n : Nat} (h : n < 16) : SpellsDigit n (hexChar n) := by
  have hall : ∀ n < 16, hexChar n = n.digitChar := by decide
  exact ⟨h, .inl (hall n h)⟩

/-- A control character is escaped by its number. -/
theorem spellsUnit_control {c : Char} (h : c.toNat < 0x20) :
    SpellsUnit c.toNat ['0', '0', hexChar (c.toNat / 16), hexChar (c.toNat % 16)] := by
  have hzero : SpellsDigit 0 '0' := spellsDigit_hexChar (by decide)
  have hunit := SpellsUnit.digits hzero hzero (spellsDigit_hexChar (n := c.toNat / 16) (by omega))
    (spellsDigit_hexChar (n := c.toNat % 16) (by omega))
  have hvalue : ((0 * 16 + 0) * 16 + c.toNat / 16) * 16 + c.toNat % 16 = c.toNat := by omega
  rwa [hvalue] at hunit

/-- A character is written as one of its spellings. -/
theorem SpellsText.escapeChar {text cs : List Char} (h : SpellsText text cs) (c : Char) :
    SpellsText (c :: text) (Json.escapeChar c ++ cs) := by
  rw [Json.escapeChar.eq_def]
  split
  case h_8 hquote hslash _ _ _ _ _ =>
    split
    · next hcontrol =>
      have hunit := SpellsText.unit (spellsUnit_control hcontrol) (by omega) h
      rwa [Char.ofNat_toNat] at hunit
    · next hcontrol => exact .plain (by omega) (fun heq => hquote heq) (fun heq => hslash heq) h
  all_goals exact .short (by decide) h

theorem spellsText_flatMap (text : List Char) : SpellsText text (text.flatMap escapeChar) := by
  induction text with
  | nil => exact .nil
  | cons c text ih => exact ih.escapeChar c

/-! ## Values -/

theorem writes_str (s : String) : Writes (.value (str s)) (write (str s)) := by
  have h := Writes.string (spellsText_flatMap s.toList)
  rwa [String.ofList_toList] at h

theorem writes_nat (n : Nat) : Writes (.value (nat n)) (write (nat n)) :=
  .number (.natural n)

theorem writes_null : Writes (.value .null) (write .null) :=
  .null

theorem writes_bool (b : Bool) : Writes (.value (.bool b)) (write (.bool b)) := by
  cases b with
  | true => exact .true
  | false => exact .false

theorem writes_ofOption {α : Type} {f : α → Json} {a : Option α}
    (h : ∀ x, Writes (.value (f x)) (write (f x))) :
    Writes (.value (ofOption f a)) (write (ofOption f a)) := by
  cases a with
  | none => exact writes_null
  | some x => exact h x

/-- Elements are written if each of them is. -/
theorem writes_elements {e : Json} {es : List Json} (he : Writes (.value e) (write e))
    (hes : ∀ e ∈ es, Writes (.value e) (write e)) :
    Writes (.elements (e :: es)) (write e ++ (writeElements es ++ [']'])) := by
  induction es generalizing e with
  | nil => exact .lastElement he areBlanks_nil
  | cons next es ih =>
    have htail := ih (hes next List.mem_cons_self) fun x hx => hes x (List.mem_cons_of_mem next hx)
    have hwrites := Writes.element he areBlanks_nil htail
    simpa [writeElements] using hwrites

/-- **An array is written if its elements are.** -/
theorem writes_array {es : List Json} (h : ∀ e ∈ es, Writes (.value e) (write e)) :
    Writes (.value (.array es)) (write (.array es)) := by
  cases es with
  | nil => exact .emptyArray areBlanks_nil
  | cons e es =>
    exact .array (writes_elements (h e List.mem_cons_self) fun x hx =>
      h x (List.mem_cons_of_mem e hx))

/-- Members are written if each of their values is. -/
theorem writes_members {m : String × Json} {ms : List (String × Json)}
    (hm : Writes (.value m.2) (write m.2)) (hms : ∀ m ∈ ms, Writes (.value m.2) (write m.2)) :
    Writes (.members ((m :: ms).map fun m => (some m.1, m.2)))
      (quote m.1 ++
        (':' :: (write m.2 ++ (writeMembers (ms.map fun m => (some m.1, m.2)) ++ ['}'])))) := by
  have hmember (m : String × Json) (hm : Writes (.value m.2) (write m.2)) :
      Writes (.member (some m.1, m.2)) (quote m.1 ++ ':' :: write m.2) := by
    have hwrites :=
      Writes.member areBlanks_nil (spellsText_flatMap m.1.toList) areBlanks_nil hm areBlanks_nil
    rw [String.ofList_toList] at hwrites
    simpa [quote] using hwrites
  induction ms generalizing m with
  | nil =>
    have hwrites := Writes.lastMember (hmember m hm)
    simpa [writeMembers] using hwrites
  | cons next ms ih =>
    have htail := ih (hms next List.mem_cons_self) fun x hx => hms x (List.mem_cons_of_mem next hx)
    have hwrites := Writes.members (hmember m hm) htail
    simpa [writeMembers, quoteText] using hwrites

/-- **An object is written if the values of its members are.** -/
theorem writes_obj {ms : List (String × Json)} (h : ∀ m ∈ ms, Writes (.value m.2) (write m.2)) :
    Writes (.value (obj ms)) (write (obj ms)) := by
  cases ms with
  | nil => exact .emptyObject areBlanks_nil
  | cons m ms =>
    exact .object (writes_members (h m List.mem_cons_self) fun x hx =>
      h x (List.mem_cons_of_mem m hx))

/-- The text of a value that is written is a text of it. -/
theorem isDocument_render {v : Json} (h : Writes (.value v) (write v)) : IsDocument v v.render :=
  ⟨write v, [], h, areBlanks_nil, by rw [render, String.toList_ofList, List.append_nil]⟩

end Json
end Gatehouse
