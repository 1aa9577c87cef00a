import Mathlib.Tactic.IntervalCases
import Gatehouse.Proofs.Text.Bytes
import Gatehouse.Text.Utf8

/-!
# Reading bytes as texts

In UTF-8 no byte of an ASCII character occurs in any other character.  So such a byte is read as
that character wherever it stands, and what stands in front of it and behind it is read as if it
stood alone.  The bytes of any other character say at the start how many they are, and they too are
read as that character, whatever follows them.

* `decode_append_cons` — bytes are read in two parts around an ASCII byte.
* `length_decodeLossy_append_cons` — so the characters on both sides can be counted one by one.
* `decode_utf8EncodeChar_append`, `decode_bytes`, `decodeLossy_bytes` — a character, and so a text,
  is read from its bytes.
-/

set_option autoImplicit false

namespace Gatehouse
namespace Text
namespace Utf8

-- the lemmas on one byte all start from this equation
attribute [local simp] decodeFrom

variable {b s : UInt8} {bs : List UInt8} {p : Pending}

theorem lead_of_ascii (h : b < 0x80) : lead b = .whole (Char.ofNat b.toNat) := by
  have hle : b ≤ 0x7F := by
    rw [UInt8.lt_iff_toNat_lt] at h
    rw [UInt8.le_iff_toNat_le]
    exact Nat.le_of_lt_succ h
  rw [lead, if_pos hle]

/-- No sequence goes on with an ASCII byte. -/
theorem le_lo_of_lead (h : lead b = .begins p) : 0x80 ≤ p.lo := by
  have hfirst : (0x80 : UInt8) ≤ 0x80 := by decide
  have hthird : (0x80 : UInt8) ≤ 0xA0 := by decide
  have hfourth : (0x80 : UInt8) ≤ 0x90 := by decide
  unfold lead at h
  repeat' split at h
  all_goals cases h
  all_goals assumption

/-! ## One byte -/

theorem decodeFrom_of_whole {c : Char} (h : lead b = .whole c) :
    decodeFrom none (b :: bs) = some c :: decodeFrom none bs := by
  rw [decodeFrom, h]

theorem decodeFrom_of_begins (h : lead b = .begins p) :
    decodeFrom none (b :: bs) = decodeFrom (some p) bs := by
  rw [decodeFrom, h]

theorem decodeFrom_of_nothing (h : lead b = .nothing) :
    decodeFrom none (b :: bs) = none :: decodeFrom none bs := by
  rw [decodeFrom, h]

/-- A byte with which a sequence cannot go on is read as if it came first. -/
theorem decodeFrom_of_break (h : ¬ (p.lo ≤ b ∧ b ≤ p.hi)) :
    decodeFrom (some p) (b :: bs) = none :: decodeFrom none (b :: bs) := by
  conv => lhs; rw [decodeFrom, if_neg h]
  cases hlead : lead b with
  | whole c => rw [decodeFrom_of_whole hlead]
  | begins q => rw [decodeFrom_of_begins hlead]
  | nothing => rw [decodeFrom_of_nothing hlead]

theorem decodeFrom_of_last (h : p.lo ≤ b ∧ b ≤ p.hi) (howed : p.owed ≤ 1) :
    decodeFrom (some p) (b :: bs) =
      some (Char.ofNat (p.value * 64 + (b.toNat - 0x80))) :: decodeFrom none bs := by
  rw [decodeFrom, if_pos h, if_pos howed]

theorem decodeFrom_of_more (h : p.lo ≤ b ∧ b ≤ p.hi) (howed : ¬ p.owed ≤ 1) :
    decodeFrom (some p) (b :: bs) =
      decodeFrom (some ⟨p.owed - 1, 0x80, 0xBF, p.value * 64 + (b.toNat - 0x80)⟩) bs := by
  rw [decodeFrom, if_pos h, if_neg howed]

/-! ## Whole texts -/

theorem decodeFrom_append_cons (hs : s < 0x80) (front behind : List UInt8) :
    (decodeFrom none (front ++ s :: behind) =
      decodeFrom none front ++ some (Char.ofNat s.toNat) :: decodeFrom none behind) ∧
    ∀ p : Pending, 0x80 ≤ p.lo → decodeFrom (some p) (front ++ s :: behind) =
      decodeFrom (some p) front ++ some (Char.ofNat s.toNat) :: decodeFrom none behind := by
  have hfirst : decodeFrom none (s :: behind) =
      some (Char.ofNat s.toNat) :: decodeFrom none behind :=
    decodeFrom_of_whole (lead_of_ascii hs)
  induction front with
  | nil =>
    refine ⟨hfirst, fun p hlo => ?_⟩
    have hbreak : ¬ (p.lo ≤ s ∧ s ≤ p.hi) := fun h =>
      UInt8.lt_irrefl s (UInt8.lt_of_lt_of_le hs (UInt8.le_trans hlo h.1))
    rw [List.nil_append, decodeFrom_of_break hbreak, hfirst]
    rfl
  | cons b front ih =>
    obtain ⟨ihnone, ihsome⟩ := ih
    have hnone : decodeFrom none (b :: (front ++ s :: behind)) =
        decodeFrom none (b :: front) ++
          some (Char.ofNat s.toNat) :: decodeFrom none behind := by
      cases hlead : lead b with
      | whole c => rw [decodeFrom_of_whole hlead, decodeFrom_of_whole hlead, ihnone]; rfl
      | begins p =>
        rw [decodeFrom_of_begins hlead, decodeFrom_of_begins hlead, ihsome p (le_lo_of_lead hlead)]
      | nothing => rw [decodeFrom_of_nothing hlead, decodeFrom_of_nothing hlead, ihnone]; rfl
    refine ⟨hnone, fun p _ => ?_⟩
    rw [List.cons_append]
    by_cases hgoes : p.lo ≤ b ∧ b ≤ p.hi
    · by_cases howed : p.owed ≤ 1
      · rw [decodeFrom_of_last hgoes howed, decodeFrom_of_last hgoes howed, ihnone]
        rfl
      · rw [decodeFrom_of_more hgoes howed, decodeFrom_of_more hgoes howed,
          ihsome _ (UInt8.le_refl _)]
    · rw [decodeFrom_of_break hgoes, decodeFrom_of_break hgoes, hnone]
      rfl

/-- **An ASCII byte is read as that character, and bytes around it as if they stood alone.** -/
theorem decode_append_cons (hs : s < 0x80) (front behind : List UInt8) :
    decode (front ++ s :: behind) =
      decode front ++ some (Char.ofNat s.toNat) :: decode behind :=
  (decodeFrom_append_cons hs front behind).1

theorem length_decodeLossy_append_cons (hs : s < 0x80) (front behind : List UInt8) :
    (decodeLossy (front ++ s :: behind)).length =
      (decodeLossy front).length + 1 + (decodeLossy behind).length := by
  simp only [decodeLossy, String.length_ofList, List.length_map, decode_append_cons hs,
    List.length_append, List.length_cons]
  omega

/-! ## Characters and their bytes -/

/-- What is pending after the first byte of a character of two, three or four bytes. -/
theorem lead_of_two {n : Nat} (h : 2 ≤ n ∧ n < 32) :
    lead (UInt8.ofNat (n + 0xC0)) = .begins ⟨1, 0x80, 0xBF, n⟩ := by
  obtain ⟨hlo, hhi⟩ := h
  interval_cases n <;> rfl

theorem lead_of_three {n : Nat} (h : n < 16) :
    lead (UInt8.ofNat (n + 0xE0)) =
      .begins ⟨2, if n = 0 then 0xA0 else 0x80, if n = 13 then 0x9F else 0xBF, n⟩ := by
  interval_cases n <;> rfl

theorem lead_of_four {n : Nat} (h : n < 5) :
    lead (UInt8.ofNat (n + 0xF0)) =
      .begins ⟨3, if n = 0 then 0x90 else 0x80, if n = 4 then 0x8F else 0xBF, n⟩ := by
  interval_cases n <;> rfl

theorem toNat_six {m : Nat} (h : m < 64) : (UInt8.ofNat (m + 0x80)).toNat = m + 0x80 := by
  rw [UInt8.toNat_ofNat', Nat.mod_eq_of_lt (by omega)]

theorem six_bounds {m : Nat} (h : m < 64) {lo hi : UInt8} (hlo : lo.toNat ≤ m + 0x80)
    (hhi : m + 0x80 ≤ hi.toNat) :
    lo ≤ UInt8.ofNat (m + 0x80) ∧ UInt8.ofNat (m + 0x80) ≤ hi := by
  rw [UInt8.le_iff_toNat_le, UInt8.le_iff_toNat_le, toNat_six h]
  exact ⟨hlo, hhi⟩

variable {c : Char} {owed n m : Nat} {lo hi : UInt8}

/-- Six bits in the middle of a character are taken in. -/
theorem decodeFrom_of_middle (howed : 1 < owed) (h : m < 64) (hlo : lo.toNat ≤ m + 0x80)
    (hhi : m + 0x80 ≤ hi.toNat) (bs : List UInt8) :
    decodeFrom (some ⟨owed, lo, hi, n⟩) (UInt8.ofNat (m + 0x80) :: bs) =
      decodeFrom (some ⟨owed - 1, 0x80, 0xBF, n * 64 + m⟩) bs := by
  rw [decodeFrom_of_more (six_bounds h hlo hhi) (Nat.not_le_of_lt howed), toNat_six h,
    Nat.add_sub_cancel]

/-- The last six bits complete a character. -/
theorem decodeFrom_of_final (h : c.toNat = n * 64 + c.toNat % 64)
    (hlo : lo.toNat ≤ c.toNat % 64 + 0x80) (hhi : c.toNat % 64 + 0x80 ≤ hi.toNat)
    (bs : List UInt8) :
    decodeFrom (some ⟨1, lo, hi, n⟩) (UInt8.ofNat (c.toNat % 64 + 0x80) :: bs) =
      some c :: decodeFrom none bs := by
  have hsix : c.toNat % 64 < 64 := Nat.mod_lt _ (by decide)
  rw [decodeFrom_of_last (six_bounds hsix hlo hhi) (Nat.le_refl 1), toNat_six hsix,
    Nat.add_sub_cancel, ← h, Char.ofNat_toNat]

theorem decode_of_two (h : 0x80 ≤ c.toNat) (h' : c.toNat < 0x800) (bs : List UInt8) :
    decode (String.utf8EncodeChar c ++ bs) = some c :: decode bs := by
  have hbytes : String.utf8EncodeChar c =
      [UInt8.ofNat (c.toNat / 64 % 32 + 0xC0), UInt8.ofNat (c.toNat % 64 + 0x80)] := by
    show (if c.toNat ≤ 0x7F then _ else if c.toNat ≤ 0x7FF then _ else _) = _
    rw [if_neg (by omega), if_pos (by omega)]
    rfl
  have hhi : c.toNat % 64 + 0x80 ≤ 0xBF := by omega
  rw [hbytes]
  show decodeFrom none (_ :: _ :: bs) = _
  rw [decodeFrom_of_begins (lead_of_two (by omega)),
    decodeFrom_of_final (by omega) (Nat.le_add_left _ _) hhi]
  rfl

theorem decode_of_three (h : 0x800 ≤ c.toNat) (h' : c.toNat < 0x10000) (bs : List UInt8) :
    decode (String.utf8EncodeChar c ++ bs) = some c :: decode bs := by
  have hvalid : c.toNat < 0xD800 ∨ 0xDFFF < c.toNat ∧ c.toNat < 0x110000 := c.valid
  have hbytes : String.utf8EncodeChar c =
      [UInt8.ofNat (c.toNat / 4096 % 16 + 0xE0), UInt8.ofNat (c.toNat / 64 % 64 + 0x80),
        UInt8.ofNat (c.toNat % 64 + 0x80)] := by
    show (if c.toNat ≤ 0x7F then _ else if c.toNat ≤ 0x7FF then _ else
      if c.toNat ≤ 0xFFFF then _ else _) = _
    rw [if_neg (by omega), if_neg (by omega), if_pos (by omega)]
    rfl
  -- what is encoded is neither overlong nor a surrogate
  have hlo : (if c.toNat / 4096 % 16 = 0 then 0xA0 else 0x80 : UInt8).toNat ≤
      c.toNat / 64 % 64 + 0x80 := by
    split
    · show 0xA0 ≤ _
      omega
    · exact Nat.le_add_left _ _
  have hhi : c.toNat / 64 % 64 + 0x80 ≤
      (if c.toNat / 4096 % 16 = 13 then 0x9F else 0xBF : UInt8).toNat := by
    split
    · show _ ≤ 0x9F
      omega
    · show _ ≤ 0xBF
      omega
  have hlast : c.toNat % 64 + 0x80 ≤ 0xBF := by omega
  rw [hbytes]
  show decodeFrom none (_ :: _ :: _ :: bs) = _
  rw [decodeFrom_of_begins (lead_of_three (by omega)),
    decodeFrom_of_middle (by decide) (by omega) hlo hhi,
    decodeFrom_of_final (by omega) (Nat.le_add_left _ _) hlast]
  rfl

theorem decode_of_four (h : 0x10000 ≤ c.toNat) (bs : List UInt8) :
    decode (String.utf8EncodeChar c ++ bs) = some c :: decode bs := by
  have hvalid : c.toNat < 0xD800 ∨ 0xDFFF < c.toNat ∧ c.toNat < 0x110000 := c.valid
  have hbytes : String.utf8EncodeChar c =
      [UInt8.ofNat (c.toNat / 262144 % 8 + 0xF0), UInt8.ofNat (c.toNat / 4096 % 64 + 0x80),
        UInt8.ofNat (c.toNat / 64 % 64 + 0x80), UInt8.ofNat (c.toNat % 64 + 0x80)] := by
    show (if c.toNat ≤ 0x7F then _ else if c.toNat ≤ 0x7FF then _ else
      if c.toNat ≤ 0xFFFF then _ else _) = _
    rw [if_neg (by omega), if_neg (by omega), if_neg (by omega)]
    rfl
  -- what is encoded is neither overlong nor beyond the last character
  have hlo : (if c.toNat / 262144 % 8 = 0 then 0x90 else 0x80 : UInt8).toNat ≤
      c.toNat / 4096 % 64 + 0x80 := by
    split
    · show 0x90 ≤ _
      omega
    · exact Nat.le_add_left _ _
  have hhi : c.toNat / 4096 % 64 + 0x80 ≤
      (if c.toNat / 262144 % 8 = 4 then 0x8F else 0xBF : UInt8).toNat := by
    split
    · show _ ≤ 0x8F
      omega
    · show _ ≤ 0xBF
      omega
  have hthird : c.toNat / 64 % 64 + 0x80 ≤ 0xBF := by omega
  have hlast : c.toNat % 64 + 0x80 ≤ 0xBF := by omega
  rw [hbytes]
  show decodeFrom none (_ :: _ :: _ :: _ :: bs) = _
  rw [decodeFrom_of_begins (lead_of_four (by omega)),
    decodeFrom_of_middle (by decide) (by omega) hlo hhi,
    decodeFrom_of_middle (by decide) (by omega) (Nat.le_add_left _ _) hthird,
    decodeFrom_of_final (by omega) (Nat.le_add_left _ _) hlast]
  rfl

/-- **The bytes of a character are read as that character,** whatever follows. -/
theorem decode_utf8EncodeChar_append (c : Char) (bs : List UInt8) :
    decode (String.utf8EncodeChar c ++ bs) = some c :: decode bs := by
  by_cases hone : c.toNat < 0x80
  · have hnat : (UInt8.ofNat c.toNat).toNat = c.toNat := by
      rw [UInt8.toNat_ofNat', Nat.mod_eq_of_lt (by omega)]
    have hascii : UInt8.ofNat c.toNat < 0x80 := by
      rw [UInt8.lt_iff_toNat_lt, hnat]
      exact hone
    rw [utf8EncodeChar_of_ascii hone, List.singleton_append, decode,
      decodeFrom_of_whole (lead_of_ascii hascii), hnat, Char.ofNat_toNat]
    rfl
  · by_cases htwo : c.toNat < 0x800
    · exact decode_of_two (Nat.le_of_not_lt hone) htwo bs
    · by_cases hthree : c.toNat < 0x10000
      · exact decode_of_three (Nat.le_of_not_lt htwo) hthree bs
      · exact decode_of_four (Nat.le_of_not_lt hthree) bs

/-- A text is read from its bytes, character by character. -/
theorem decode_bytes (s : String) : decode (bytes s) = s.toList.map some := by
  have hdecode : ∀ cs : List Char, decode (cs.flatMap String.utf8EncodeChar) = cs.map some := by
    intro cs
    induction cs with
    | nil => rfl
    | cons c cs ih => rw [List.flatMap_cons, decode_utf8EncodeChar_append, ih, List.map_cons]
  rw [bytes_eq_flatMap, hdecode]

/-- A text is read again from its bytes. -/
theorem decodeLossy_bytes (s : String) : decodeLossy (bytes s) = s := by
  rw [decodeLossy, decode_bytes, List.map_map]
  show String.ofList (s.toList.map id) = s
  rw [List.map_id, String.ofList_toList]

end Utf8
end Text
end Gatehouse
