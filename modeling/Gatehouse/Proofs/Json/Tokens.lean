import Gatehouse.Json.Reader
import Gatehouse.Proofs.Json.Grammar
import Mathlib.Data.List.DropRight

/-!
# Blanks, texts and numbers are read

However a text or a number is spelled, the reader finds that text or that number.

What stands behind a number matters, since it ends where the digits do; it is enough that no digit,
point or exponent follows (`Ends`).

* `skipGap_blanks`, `readString_of_spellsText`, `readNumber_of_spellsNumber` — what is read of each.
-/

set_option autoImplicit false

namespace Gatehouse
namespace Json

/-- The symbols of characters. -/
def symbols (cs : List Char) : List Symbol :=
  cs.map some

@[simp] theorem symbols_nil : symbols [] = [] := rfl

@[simp] theorem symbols_cons (c : Char) (cs : List Char) :
    symbols (c :: cs) = some c :: symbols cs := rfl

@[simp] theorem symbols_append (cs ds : List Char) :
    symbols (cs ++ ds) = symbols cs ++ symbols ds :=
  List.map_append

section Reading

variable {cs ds gap : List Char} {rest : List Symbol}

/-! ## Blanks -/

theorem isGap_of_blank {c : Char} (h : c ∈ [' ', '\n', '\t', '\r']) : isGap (some c) = true := by
  simp only [List.mem_cons, List.not_mem_nil, or_false] at h
  rcases h with rfl | rfl | rfl | rfl <;> decide

theorem skipGap_cons {s : Symbol} (h : isGap s = false) : skipGap (s :: rest) = s :: rest := by
  rw [skipGap, List.dropWhile_cons_of_neg (by simp [h])]

@[simp] theorem skipGap_blanks (h : AreBlanks gap) :
    skipGap (symbols gap ++ rest) = skipGap rest := by
  induction gap with
  | nil => rfl
  | cons c gap ih =>
    rw [symbols_cons, List.cons_append, skipGap,
      List.dropWhile_cons_of_pos (isGap_of_blank (h c List.mem_cons_self))]
    exact ih fun d hd => h d (List.mem_cons_of_mem c hd)

theorem skipGap_skipGap (cs : List Symbol) : skipGap (skipGap cs) = skipGap cs :=
  List.dropWhile_idempotent isGap cs

/-! ## Texts -/

theorem hexDigit?_of_spellsDigit {n : Nat} {c : Char} (h : SpellsDigit n c) :
    hexDigit? c = some n := by
  obtain ⟨hn, hc⟩ := h
  have hall : ∀ n < 16, hexDigit? n.digitChar = some n ∧
      hexDigit? n.digitChar.toUpper = some n := by
    decide
  rcases hc with rfl | rfl
  · exact (hall n hn).1
  · exact (hall n hn).2

theorem unit?_of_spellsUnit {u : Nat} (h : SpellsUnit u ds) :
    ∃ a b c d, ds = [a, b, c, d] ∧ unit? (some a) (some b) (some c) (some d) = some u := by
  cases h with
  | digits ha hb hc hd =>
    refine ⟨_, _, _, _, rfl, ?_⟩
    simp [unit?, hexDigit?_of_spellsDigit ha, hexDigit?_of_spellsDigit hb,
      hexDigit?_of_spellsDigit hc, hexDigit?_of_spellsDigit hd]

theorem scanString_unit {u : Nat} (h : SpellsUnit u ds) (rest : List Symbol) :
    scanString (symbols ('\\' :: 'u' :: ds) ++ rest) =
      (scanString rest).map fun r => (pieceOfUnit u :: r.1, r.2) := by
  obtain ⟨a, b, c, d, rfl, hu⟩ := unit?_of_spellsUnit h
  simp [scanString, hu]

theorem scanString_short {e c : Char} (h : (e, c) ∈ shortEscapes) (rest : List Symbol) :
    scanString (symbols ['\\', e] ++ rest) =
      (scanString rest).map fun r => (.char c :: r.1, r.2) := by
  simp only [shortEscapes, List.mem_cons, List.not_mem_nil, or_false, Prod.mk.injEq] at h
  rcases h with ⟨rfl, rfl⟩ | ⟨rfl, rfl⟩ | ⟨rfl, rfl⟩ | ⟨rfl, rfl⟩ | ⟨rfl, rfl⟩ | ⟨rfl, rfl⟩ |
    ⟨rfl, rfl⟩ | ⟨rfl, rfl⟩ <;> simp [scanString, escape?]

theorem scanString_plain {c : Char} (hc : 0x20 ≤ c.toNat) (hquote : c ≠ '"') (hslash : c ≠ '\\')
    (rest : List Symbol) :
    scanString (some c :: rest) = (scanString rest).map fun r => (.char c :: r.1, r.2) := by
  have hplain : ¬ (c.toNat < 0x20 ∨ c = '\\') := fun h => h.elim (Nat.not_lt.2 hc) hslash
  rw [scanString.eq_def]
  split
  · next heq => cases heq
  · next heq => cases heq
  · next heq =>
    cases heq
    exact absurd rfl hquote
  · next heq =>
    cases heq
    exact absurd rfl hslash
  · next heq =>
    cases heq
    exact absurd rfl hslash
  · next heq =>
    cases heq
    exact if_neg hplain

/-- What stands between quotes is read as the pieces of the text that it spells. -/
theorem scanString_of_spellsText {text : List Char} (h : SpellsText text cs) (rest : List Symbol) :
    ∃ ps, scanString (symbols cs ++ some '"' :: rest) = some (ps, rest) ∧
      assemble ps = some text := by
  induction h with
  | nil => exact ⟨[], rfl, rfl⟩
  | plain hc hquote hslash h ih =>
    obtain ⟨ps, hps, htext⟩ := ih
    refine ⟨.char _ :: ps, ?_, by rw [assemble, htext]; rfl⟩
    rw [symbols_cons, List.cons_append, scanString_plain hc hquote hslash, hps]
    rfl
  | @short e c text cs he h ih =>
    obtain ⟨ps, hps, htext⟩ := ih
    refine ⟨.char c :: ps, ?_, by rw [assemble, htext]; rfl⟩
    have hscan := scanString_short he (symbols cs ++ some '"' :: rest)
    rw [hps] at hscan
    simpa using hscan
  | @unit u text ds cs hds hu h ih =>
    obtain ⟨ps, hps, htext⟩ := ih
    refine ⟨.char (Char.ofNat u) :: ps, ?_, by rw [assemble, htext]; rfl⟩
    have hscan := scanString_unit hds (symbols cs ++ some '"' :: rest)
    rw [hps, pieceOfUnit, if_neg hu] at hscan
    simpa using hscan
  | @pair hi lo text ds es cs hds hes hhi hlo h ih =>
    obtain ⟨ps, hps, htext⟩ := ih
    refine ⟨.half hi :: .half lo :: ps, ?_, ?_⟩
    · have hlow := scanString_unit hes (symbols cs ++ some '"' :: rest)
      rw [hps, pieceOfUnit, if_pos ⟨by omega, hlo.2⟩] at hlow
      have hhigh :=
        scanString_unit hds (symbols ('\\' :: 'u' :: es) ++ (symbols cs ++ some '"' :: rest))
      rw [hlow, pieceOfUnit, if_pos ⟨hhi.1, by omega⟩] at hhigh
      simpa using hhigh
    · rw [assemble, if_pos ⟨hhi.2, hlo.1⟩, htext]
      rfl

theorem readString_of_spellsText {text : List Char} (h : SpellsText text cs) (rest : List Symbol) :
    readString (symbols cs ++ some '"' :: rest) = some (some (String.ofList text), rest) := by
  obtain ⟨ps, hps, htext⟩ := scanString_of_spellsText h rest
  rw [readString, hps, Option.map_some, htext]
  rfl

/-! ## Numbers -/

/-- Digits are read as far as they go. -/
theorem spanDigits_digits {ds : List Char} (hds : ∀ d ∈ ds, d.isDigit = true)
    (hrest : ∀ s ∈ rest.head?, isDigit s = false) :
    spanDigits (symbols ds ++ rest) = (ds, rest) := by
  induction ds with
  | nil =>
    cases rest with
    | nil => rfl
    | cons s rest =>
      have hs : isDigit s = false := hrest s rfl
      simp [spanDigits, hs, chars]
  | cons d ds ih =>
    have hd : isDigit (some d) = true := hds d List.mem_cons_self
    have htail := ih fun e he => hds e (List.mem_cons_of_mem d he)
    simp only [spanDigits, Prod.mk.injEq] at htail
    simp only [spanDigits, symbols_cons, List.cons_append, List.takeWhile_cons_of_pos hd,
      List.dropWhile_cons_of_pos hd, htail.2, Prod.mk.injEq, and_true]
    show d :: chars _ = d :: ds
    rw [htail.1]

theorem wholeDigits_eq (n : Nat) : wholeDigits n = Nat.toDigits 10 n := Nat.toList_repr

theorem isDigit_of_mem_wholeDigits {n : Nat} {d : Char} (h : d ∈ wholeDigits n) :
    d.isDigit = true := by
  rw [wholeDigits_eq] at h
  exact Nat.isDigit_of_mem_toDigits (by decide) (by decide) h

theorem natOfDigits_wholeDigits (n : Nat) : natOfDigits (wholeDigits n) = n := by
  have hfold : natOfDigits (wholeDigits n) = Nat.ofDigitChars 10 (Nat.toDigits 10 n) 0 := by
    rw [natOfDigits, wholeDigits_eq, Nat.ofDigitChars_eq_foldl]
    simp only [Nat.mul_comm]
  rw [hfold, Nat.ofDigitChars_toDigits (by decide) (by decide)]

/-- Only zero starts with a zero. -/
theorem head?_wholeDigits_ne {n : Nat} (h : 0 < n) : (wholeDigits n).head? ≠ some '0' := by
  rw [wholeDigits_eq]
  induction n using Nat.strongRecOn with
  | ind n ih =>
    rw [Nat.toDigits_eq_if (by decide)]
    split
    · simp
      omega
    · rw [List.head?_append_of_ne_nil _ Nat.toDigits_ne_nil]
      exact ih (n / 10) (by omega) (by omega)

/-- What follows does not carry on a number. -/
def Ends (rest : List Symbol) : Prop :=
  ∀ s ∈ rest.head?, isDigit s = false ∧ s ≠ some '.' ∧ s ≠ some 'e' ∧ s ≠ some 'E'

theorem Ends.not_digit (h : Ends rest) : ∀ s ∈ rest.head?, isDigit s = false :=
  fun s hs => (h s hs).1

theorem readFraction_of_spellsFraction {fraction : List Char} (h : SpellsFraction fraction)
    (hdigit : ∀ s ∈ rest.head?, isDigit s = false) (hpoint : rest.head? ≠ some (some '.')) :
    readFraction (symbols fraction ++ rest) = some (fraction, rest) := by
  cases h with
  | none =>
    rw [symbols_nil, List.nil_append, readFraction.eq_def]
    split
    · exact absurd rfl hpoint
    · rfl
  | @point ds h =>
    have hspan := spanDigits_digits h.digits hdigit
    simp [readFraction, hspan, h.ne_nil]

theorem readExponentDigits_of_areDigits (sign : List Char) (h : AreDigits ds)
    (hdigit : ∀ s ∈ rest.head?, isDigit s = false) :
    readExponentDigits sign (symbols ds ++ rest) = some ('e' :: sign ++ ds, rest) := by
  have hspan := spanDigits_digits h.digits hdigit
  simp [readExponentDigits, hspan, h.ne_nil]

theorem readExponent_of_spellsExponent {exponent : List Char} (h : SpellsExponent exponent cs)
    (hrest : Ends rest) : readExponent (symbols cs ++ rest) = some (exponent, rest) := by
  cases h with
  | none =>
    rw [symbols_nil, List.nil_append, readExponent.eq_def]
    split
    case h_7 => rfl
    all_goals first
      | exact absurd rfl (hrest _ rfl).2.2.1
      | exact absurd rfl (hrest _ rfl).2.2.2
  | @power e sign ds he hsign h =>
    have hdigits (sign : List Char) := readExponentDigits_of_areDigits sign h hrest.not_digit
    rcases hsign with rfl | rfl | rfl
    · -- without a sign the first digit follows, which is not a sign
      obtain ⟨d, ds, rfl⟩ := List.exists_cons_of_ne_nil h.ne_nil
      have hd := h.digits d List.mem_cons_self
      have hplus : d ≠ '+' := by rintro rfl; exact absurd hd (by decide)
      have hminus : d ≠ '-' := by rintro rfl; exact absurd hd (by decide)
      rcases he with rfl | rfl
      · simpa [readExponent, hplus, hminus] using hdigits []
      · simpa [readExponent, hplus, hminus] using hdigits []
    · rcases he with rfl | rfl
      · exact hdigits ['+']
      · exact hdigits ['+']
    · rcases he with rfl | rfl
      · exact hdigits ['-']
      · exact hdigits ['-']

/-- A number after its sign is read. -/
theorem readNumber_eq {n : Nat} {fraction exponent : List Char} (negated : Bool)
    (hfraction : SpellsFraction fraction) (hexponent : SpellsExponent exponent cs)
    (hrest : Ends rest) :
    readNumber negated (symbols (wholeDigits n ++ fraction ++ cs) ++ rest) =
      some (if fraction.isEmpty && exponent.isEmpty && !(negated && n == 0) then
          (if negated then .negative n else .natural n)
        else .fractional
          (String.ofList
            ((if negated then ['-'] else []) ++ wholeDigits n ++ fraction ++ exponent)),
        rest) := by
  have hpower : ∀ s ∈ (symbols cs ++ rest).head?, isDigit s = false ∧ s ≠ some '.' := by
    cases hexponent with
    | none => exact fun s hs => ⟨(hrest s hs).1, (hrest s hs).2.1⟩
    | power he =>
      intro s hs
      rcases he with rfl | rfl <;> cases hs <;> decide
  have hpoint : ∀ s ∈ (symbols fraction ++ (symbols cs ++ rest)).head?, isDigit s = false := by
    cases hfraction with
    | none => exact fun s hs => (hpower s hs).1
    | point =>
      intro s hs
      cases hs
      rfl
  have hwhole := spanDigits_digits (fun d => isDigit_of_mem_wholeDigits (n := n)) hpoint
  have hread := readFraction_of_spellsFraction hfraction (fun s hs => (hpower s hs).1)
    fun h => (hpower _ h).2 rfl
  have hzeros : ((wholeDigits n).isEmpty || ((wholeDigits n).head? == some '0' &&
      decide (1 < (wholeDigits n).length))) = false := by
    by_cases hn : 0 < n
    · have hhead : ((wholeDigits n).head? == some '0') = false := by
        simpa using head?_wholeDigits_ne hn
      rw [hhead, Bool.false_and, Bool.or_false, wholeDigits_eq]
      simp
    · obtain rfl : n = 0 := by omega
      decide
  simp only [symbols_append, List.append_assoc] at hwhole ⊢
  simp only [readNumber, hwhole, hzeros, hread, readExponent_of_spellsExponent hexponent hrest,
    natOfDigits_wholeDigits, Bool.false_eq_true, if_false, Option.bind_eq_bind, Option.bind_some,
    List.append_assoc]
  split <;> rfl

/-- A number is read, and one with a sign behind the sign. -/
theorem readNumber_of_spellsNumber {n : Number} (h : SpellsNumber n cs) (hrest : Ends rest) :
    (∃ d ds, cs = d :: ds ∧ d.isDigit = true ∧
      readNumber false (symbols cs ++ rest) = some (n, rest)) ∨
      ∃ ds, cs = '-' :: ds ∧ readNumber true (symbols ds ++ rest) = some (n, rest) := by
  have hdigit (n : Nat) : ∃ d ds, wholeDigits n = d :: ds ∧ d.isDigit = true := by
    obtain ⟨d, ds, hds⟩ := List.exists_cons_of_ne_nil
      (show wholeDigits n ≠ [] by rw [wholeDigits_eq]; exact Nat.toDigits_ne_nil)
    exact ⟨d, ds, hds, isDigit_of_mem_wholeDigits (n := n) (by rw [hds]; exact List.mem_cons_self)⟩
  cases h with
  | natural n =>
    obtain ⟨d, ds, hds, hd⟩ := hdigit n
    have hread := readNumber_eq (n := n) false .none .none hrest
    simp only [List.append_nil] at hread
    exact .inl ⟨d, ds, hds, hd, hread⟩
  | @negative n hn =>
    have hread := readNumber_eq (n := n) true .none .none hrest
    simp [Nat.pos_iff_ne_zero.1 hn] at hread
    exact .inr ⟨wholeDigits n, rfl, hread⟩
  | @fractional n minus fraction exponent cs hminus hfraction hexponent h =>
    rcases hminus with rfl | rfl
    · obtain ⟨d, ds, hds, hd⟩ := hdigit n
      have hread := readNumber_eq (n := n) false hfraction hexponent hrest
      have hsplit : (fraction.isEmpty && exponent.isEmpty && !(false && n == 0)) = false := by
        rcases h with h | h | h
        · simp [h]
        · simp [h]
        · cases h.1
      rw [hsplit] at hread
      exact .inl ⟨d, ds ++ fraction ++ cs, by rw [hds]; rfl, hd, hread⟩
    · have hread := readNumber_eq (n := n) true hfraction hexponent hrest
      have hsplit : (fraction.isEmpty && exponent.isEmpty && !(true && n == 0)) = false := by
        rcases h with h | h | h
        · simp [h]
        · simp [h]
        · simp [h.2]
      rw [hsplit] at hread
      exact .inr ⟨wholeDigits n ++ fraction ++ cs, rfl, hread⟩

end Reading

end Json
end Gatehouse
