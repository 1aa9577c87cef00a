import Gatehouse.Url.Parser
import Gatehouse.Proofs.Text.Bytes

/-!
# Segments as they are written

In the path of a URL most characters of ASCII stand for themselves, and every other character is
written as one or more bytes with percent signs.  So writing a segment works character by character,
and nothing that separates segments or makes a step can come into it that was not there before.

* `encode_of_plain` — a segment of characters that stand for themselves is written as it is.
* `mem_encode` — what is written stands for itself, and a slash in it was one before.
* `isUp_encode`, `isHere_encode` — a segment takes a step after it has been written just if it did
  before.
-/

set_option autoImplicit false

namespace Gatehouse
namespace Url

open Percent

/-- Whether a character of a path stands for itself. -/
def isPlain (c : Char) : Bool :=
  c.toNat < 0x80 && !inPath (byte c)

/-- A character as it is written in a path. -/
def written (c : Char) : List Char :=
  (String.utf8EncodeChar c).flatMap (encodeByte inPath)

theorem encode_eq_flatMap (cs : List Char) : encode inPath cs = cs.flatMap written := by
  rw [encode, Text.bytes_ofList, List.flatMap_assoc]
  rfl

theorem encode_cons (c : Char) (cs : List Char) :
    encode inPath (c :: cs) = written c ++ encode inPath cs := by
  rw [encode_eq_flatMap, encode_eq_flatMap, List.flatMap_cons]

@[simp] theorem encode_nil : encode inPath [] = [] := by
  rw [encode_eq_flatMap, List.flatMap_nil]

/-! ## One character -/

theorem written_of_plain {c : Char} (h : isPlain c = true) : written c = [c] := by
  simp only [isPlain, Bool.and_eq_true, decide_eq_true_eq, Bool.not_eq_true'] at h
  have hbyte : (UInt8.ofNat c.toNat).toNat = c.toNat := by
    rw [UInt8.toNat_ofNat', Nat.mod_eq_of_lt (Nat.lt_trans h.1 (by decide))]
  rw [written, Text.utf8EncodeChar_of_ascii h.1, List.flatMap_singleton, encodeByte]
  rw [byte] at h
  rw [if_neg (by rw [h.2]; exact Bool.false_ne_true), List.map_singleton, hbyte, Char.ofNat_toNat]

/-- Whether a character is a hexadecimal digit as they are written. -/
def isDigit (c : Char) : Bool :=
  "0123456789ABCDEF".toList.contains c

/-- A byte that cannot stand in a path is written with two digits, and never as a point. -/
theorem encodeByte_of_inPath {b : UInt8} (h : inPath b = true) :
    ∃ hi lo, encodeByte inPath b = ['%', hi, lo] ∧ isDigit hi = true ∧ isDigit lo = true ∧
      (hi = '2' → lo ≠ 'E') := by
  have hall : ∀ n < 256, inPath (UInt8.ofNat n) = true →
      isDigit (Char.ofNat (hexDigit (UInt8.ofNat n / 16)).toNat) = true ∧
        isDigit (Char.ofNat (hexDigit (UInt8.ofNat n % 16)).toNat) = true ∧
        (Char.ofNat (hexDigit (UInt8.ofNat n / 16)).toNat = '2' →
          Char.ofNat (hexDigit (UInt8.ofNat n % 16)).toNat ≠ 'E') := by
    decide +kernel
  have hb := hall b.toNat b.toNat_lt
  rw [UInt8.ofNat_toNat] at hb
  refine ⟨_, _, ?_, hb h⟩
  rw [encodeByte, if_pos h]
  rfl

/-- The bytes of a character that does not stand for itself cannot stand in a path. -/
theorem inPath_of_mem {c : Char} (h : isPlain c = false) {b : UInt8}
    (hb : b ∈ String.utf8EncodeChar c) : inPath b = true := by
  by_cases hascii : c.toNat < 0x80
  · rw [Text.utf8EncodeChar_of_ascii hascii, List.mem_singleton] at hb
    rw [hb]
    simpa [isPlain, hascii, byte] using h
  · have hhigh : 0x7F ≤ b := UInt8.le_trans (by decide)
      (Text.le_of_mem_utf8EncodeChar (Nat.le_of_not_lt hascii) hb)
    rw [inPath, inQuery, isControl, decide_eq_true hhigh, Bool.or_true, Bool.true_or, Bool.true_or]

/-- What is written for a character starts with it, or with a percent sign. -/
theorem written_eq_cons (c : Char) : ∃ d ds, written c = d :: ds ∧ (d = c ∨ d = '%') := by
  cases hplain : isPlain c with
  | true => exact ⟨c, [], written_of_plain hplain, Or.inl rfl⟩
  | false =>
    obtain ⟨b, bytes, hbytes⟩ := List.exists_cons_of_ne_nil (String.utf8EncodeChar_ne_nil (c := c))
    obtain ⟨hi, lo, hescape, -⟩ :=
      encodeByte_of_inPath (inPath_of_mem hplain (hbytes ▸ List.mem_cons_self))
    exact ⟨'%', _, by rw [written, hbytes, List.flatMap_cons, hescape]; rfl, Or.inr rfl⟩

/-- What starts with a character of its own when written, started with it. -/
theorem encode_eq_cons {cs rest : List Char} {d : Char} (h : encode inPath cs = d :: rest)
    (hd : d ≠ '%') : ∃ cs', cs = d :: cs' ∧ (isPlain d = true → rest = encode inPath cs') := by
  cases cs with
  | nil =>
    rw [encode_nil] at h
    cases h
  | cons c cs =>
    obtain ⟨d', ds, hwritten, hc⟩ := written_eq_cons c
    rw [encode_cons, hwritten, List.cons_append, List.cons.injEq] at h
    obtain ⟨rfl, hrest⟩ := h
    obtain rfl : d' = c := hc.resolve_right hd
    refine ⟨cs, rfl, fun hplain => ?_⟩
    rw [written_of_plain hplain, List.cons.injEq] at hwritten
    rw [← hrest, ← hwritten.2, List.nil_append]

/-! ## Whole segments -/

theorem encode_of_plain {cs : List Char} (h : ∀ c ∈ cs, isPlain c = true) :
    encode inPath cs = cs := by
  induction cs with
  | nil => rw [encode_nil]
  | cons c cs ih =>
    rw [encode_cons, written_of_plain (h c List.mem_cons_self),
      ih fun d hd => h d (List.mem_cons_of_mem c hd), List.singleton_append]

theorem encode_eq_nil_iff {cs : List Char} : encode inPath cs = [] ↔ cs = [] := by
  cases cs with
  | nil => rw [encode_nil]
  | cons c cs =>
    obtain ⟨d, ds, hwritten, -⟩ := written_eq_cons c
    rw [encode_cons, hwritten]
    simp

/-- A text in which every character is as it was can only come from itself. -/
theorem encode_eq_iff {cs text : List Char} (h : ∀ c ∈ text, isPlain c = true ∧ c ≠ '%') :
    encode inPath cs = text ↔ cs = text := by
  refine ⟨fun heq => ?_, ?_⟩
  · induction text generalizing cs with
    | nil => exact encode_eq_nil_iff.1 heq
    | cons d text ih =>
      have hd := h d List.mem_cons_self
      obtain ⟨cs', rfl, hrest⟩ := encode_eq_cons heq hd.2
      rw [ih (fun c hc => h c (List.mem_cons_of_mem d hc)) (hrest hd.1).symm]
  · rintro rfl
    exact encode_of_plain fun c hc => (h c hc).1

theorem isPlain_of_isDigit {c : Char} (h : isDigit c = true) :
    isPlain c = true ∧ c ≠ '/' ∧ c ≠ '\\' := by
  have hall : "0123456789ABCDEF".toList.all
      (fun d => isPlain d && (d != '/' && d != '\\')) = true := by decide
  simpa using List.all_eq_true.1 hall c (List.contains_iff_mem.1 h)

/-- What is written stands for itself, and is a slash only if it was one before. -/
theorem mem_encode {cs : List Char} {d : Char} (h : d ∈ encode inPath cs) :
    isPlain d = true ∧ (d = '/' ∨ d = '\\' → d ∈ cs) := by
  rw [encode_eq_flatMap] at h
  obtain ⟨c, hc, hd⟩ := List.mem_flatMap.1 h
  cases hplain : isPlain c with
  | true =>
    rw [written_of_plain hplain, List.mem_singleton] at hd
    exact ⟨hd ▸ hplain, fun _ => hd ▸ hc⟩
  | false =>
    obtain ⟨b, hb, hd⟩ := List.mem_flatMap.1 hd
    obtain ⟨hi, lo, hescape, hhi, hlo, -⟩ := encodeByte_of_inPath (inPath_of_mem hplain hb)
    have hescaped : isPlain d = true ∧ d ≠ '/' ∧ d ≠ '\\' := by
      rw [hescape] at hd
      simp only [List.mem_cons, List.not_mem_nil, or_false] at hd
      rcases hd with rfl | rfl | rfl
      · decide
      · exact isPlain_of_isDigit hhi
      · exact isPlain_of_isDigit hlo
    exact ⟨hescaped.1, fun h => (h.elim hescaped.2.1 hescaped.2.2).elim⟩

/-! ## Points -/

theorem dotted_cons {c : Char} (h : c ≠ '%') (cs : List Char) :
    dotted (c :: cs) = c :: dotted cs := by
  rw [dotted]
  rintro d ds rfl
  exact absurd rfl h

theorem dotted_percent {cs : List Char} (h : ∀ c rest, cs = '2' :: c :: rest → c ≠ 'e' ∧ c ≠ 'E') :
    dotted ('%' :: cs) = '%' :: dotted cs := by
  by_cases hcs : ∃ c rest, cs = '2' :: c :: rest
  · obtain ⟨c, rest, rfl⟩ := hcs
    have hc := h c rest rfl
    rw [dotted, if_neg (by simp [hc.1, hc.2])]
  · rw [dotted]
    rintro c rest -
    exact fun heq => hcs ⟨c, rest, heq⟩

theorem ne_percent_of_isDigit {c : Char} (h : isDigit c = true) : c ≠ '%' := by
  rintro rfl
  revert h
  decide

/-- There is no point in bytes that cannot stand in a path. -/
theorem dotted_escapes {bytes : List UInt8} (h : ∀ b ∈ bytes, inPath b = true) (rest : List Char) :
    dotted (bytes.flatMap (encodeByte inPath) ++ rest) =
      bytes.flatMap (encodeByte inPath) ++ dotted rest := by
  induction bytes with
  | nil => rfl
  | cons b bytes ih =>
    obtain ⟨hi, lo, hescape, hhi, hlo, hpoint⟩ := encodeByte_of_inPath (h b List.mem_cons_self)
    have ih := ih fun b hb => h b (List.mem_cons_of_mem _ hb)
    simp only [List.flatMap_cons, hescape, List.cons_append, List.nil_append]
    rw [dotted_percent, dotted_cons (ne_percent_of_isDigit hhi),
      dotted_cons (ne_percent_of_isDigit hlo), ih]
    rintro c rest heq
    simp only [List.cons.injEq] at heq
    obtain ⟨rfl, rfl, -⟩ := heq
    refine ⟨?_, hpoint rfl⟩
    rintro rfl
    revert hlo
    decide

/-- Whether a point is written as such or with a percent sign, it stays so. -/
theorem dotted_encode (cs : List Char) :
    dotted (encode inPath cs) = encode inPath (dotted cs) := by
  fun_induction dotted cs with
  | case1 c cs h ih =>
    have hplain : isPlain c = true := by
      rcases (by simpa using h : c = 'e' ∨ c = 'E') with rfl | rfl <;> decide
    rw [encode_cons, encode_cons, encode_cons, written_of_plain (by decide),
      written_of_plain (by decide), written_of_plain hplain, encode_cons,
      written_of_plain (by decide), ← ih]
    show dotted ('%' :: '2' :: c :: encode inPath cs) = '.' :: dotted (encode inPath cs)
    rw [dotted, if_pos h]
  | case2 c cs h ih =>
    rw [encode_cons, written_of_plain (by decide), List.singleton_append, dotted_percent, ih,
      encode_cons, written_of_plain (by decide), List.singleton_append]
    rintro d rest heq
    -- the third character is the one that was there, or starts an escape
    rw [encode_cons, written_of_plain (by decide), List.singleton_append, List.cons.injEq] at heq
    obtain ⟨d', ds, hwritten, hd⟩ := written_eq_cons c
    rw [encode_cons, hwritten, List.cons_append, List.cons.injEq] at heq
    obtain ⟨-, rfl, -⟩ := heq
    rcases hd with rfl | rfl
    · simpa using h
    · decide
  | case3 c cs h ih =>
    cases hplain : isPlain c with
    | false =>
      rw [encode_cons, written, dotted_escapes fun b hb => inPath_of_mem hplain hb, ih, encode_cons,
        written]
    | true =>
      rw [encode_cons, encode_cons, written_of_plain hplain, List.singleton_append,
        List.singleton_append, ← ih]
      by_cases hpercent : c = '%'
      · subst hpercent
        refine dotted_percent fun d rest heq => ?_
        obtain ⟨cs', rfl, hrest⟩ := encode_eq_cons heq (by decide)
        have hcons := hrest (by decide)
        cases cs' with
        | nil =>
          rw [encode_nil] at hcons
          cases hcons
        | cons c' cs' => exact absurd rfl (h c' cs' rfl)
      · exact dotted_cons hpercent _
  | case4 => rw [encode_nil, dotted]

/-- Points stand for themselves, and no escape starts with one. -/
theorem of_mem_points {c : Char} (h : c ∈ ['.', '.']) : isPlain c = true ∧ c ≠ '%' := by
  obtain rfl : c = '.' := by simpa using h
  decide

/-- A segment takes a step back after it has been written just if it did before. -/
theorem isUp_encode (cs : List Char) : isUp (encode inPath cs) = isUp cs := by
  rw [isUp, isUp, dotted_encode, Bool.eq_iff_iff, beq_iff_eq, beq_iff_eq]
  exact encode_eq_iff fun c hc => of_mem_points hc

/-- A segment stands for nothing after it has been written just if it did before. -/
theorem isHere_encode (cs : List Char) : isHere (encode inPath cs) = isHere cs := by
  rw [isHere, isHere, dotted_encode, Bool.eq_iff_iff, beq_iff_eq, beq_iff_eq]
  exact encode_eq_iff fun c hc => of_mem_points (List.mem_cons_of_mem '.' hc)

end Url
end Gatehouse
