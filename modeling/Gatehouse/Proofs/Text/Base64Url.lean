import Mathlib.Data.List.Basic
import Gatehouse.Text.Base64Url

/-!
# Base64 is read strictly

Two texts never stand for the same bytes.  What `decode` accepts is made of symbols throughout, its
last group is not of one symbol alone, and no bit is set that no byte needs; so encoding the bytes
that were read gives the text back (`eq_encode_of_decode`).  A text that is accepted is therefore a
text that `encode` writes, without filling and without anything else that a reader might pass over.
And every text that `encode` writes is accepted, and gives the bytes back (`decode_encode`).

The argument follows the groups of four.  `of_fault?` collects what is known of a text in which no
fault was found, and `encode_join` goes through the values of its symbols as `join` does.  For the
way back `sextets` are the values that bytes are written with, and `fault?_eq_none` is the converse
of `of_fault?`.
-/

set_option autoImplicit false

namespace Gatehouse
namespace Text
namespace Base64Url

/-! ## Symbols and their values -/

/-- The value of a symbol is below sixty-four, and the symbol is the one for its value. -/
theorem of_value? {b : UInt8} {v : Nat} (h : value? b = some v) : v < 64 ∧ symbol v = b := by
  simp only [value?, Char.reduceToNat] at h
  split at h
  · next hn =>
    cases h
    refine ⟨by omega, ?_⟩
    rw [symbol, if_pos (by omega)]
    simp [Nat.add_sub_of_le hn.1]
  · split at h
    · next hn =>
      cases h
      refine ⟨by omega, ?_⟩
      rw [symbol, if_neg (by omega), if_pos (by omega)]
      simp [Nat.add_sub_of_le hn.1]
    · split at h
      · next hn =>
        cases h
        refine ⟨by omega, ?_⟩
        rw [symbol, if_neg (by omega), if_neg (by omega), if_pos (by omega)]
        simp [Nat.add_sub_of_le hn.1]
      · split at h
        · next hb =>
          cases h
          exact ⟨by omega, hb.symm⟩
        · split at h
          · next hb =>
            cases h
            exact ⟨by omega, hb.symm⟩
          · cases h

/-- Whether a byte is a symbol. -/
def IsSymbol (b : UInt8) : Prop :=
  (value? b).isSome = true

/-- The symbols for the values of a text that is made of symbols are the text. -/
theorem map_symbol_filterMap {bs : List UInt8} (h : ∀ b ∈ bs, IsSymbol b) :
    (bs.filterMap value?).map symbol = bs := by
  induction bs with
  | nil => rfl
  | cons b bs ih =>
    obtain ⟨v, hv⟩ := Option.isSome_iff_exists.1 (h b List.mem_cons_self)
    rw [List.filterMap_cons_some hv, List.map_cons, (of_value? hv).2,
      ih fun c hc => h c (List.mem_cons_of_mem b hc)]

theorem length_filterMap_value? {bs : List UInt8} (h : ∀ b ∈ bs, IsSymbol b) :
    (bs.filterMap value?).length = bs.length :=
  List.filterMap_length_eq_length.2 h

theorem drop_filterMap_value? {bs : List UInt8} {k : Nat} (h : ∀ b ∈ bs.take k, IsSymbol b)
    (hk : k ≤ bs.length) : (bs.filterMap value?).drop k = (bs.drop k).filterMap value? := by
  have hvalues : ((bs.take k).filterMap value?).length = k := by
    rw [length_filterMap_value? h, List.length_take, Nat.min_eq_left hk]
  conv => lhs; rw [← List.take_append_drop k bs]
  rw [List.filterMap_append, List.drop_left' hvalues]

/-! ## Groups of four -/

theorem hasSuperfluousBits_of_length {vs : List Nat} (h : vs.length = 4) :
    hasSuperfluousBits vs = false := by
  match vs with
  | [_, _, _, _] => rfl

/-- Writing the bytes of some values gives the symbols for these values, if the last group is not of
one value alone and every bit of it belongs to a byte. -/
theorem encode_join {vs : List Nat} (hlt : ∀ v ∈ vs, v < 64) (hlength : vs.length % 4 ≠ 1)
    (hclean : hasSuperfluousBits (vs.drop (vs.length / 4 * 4)) = false) :
    encode (join vs) = vs.map symbol := by
  fun_induction join vs with
  | case1 a b c d rest ih =>
    simp only [List.forall_mem_cons] at hlt
    obtain ⟨ha, hb, hc, hd, hrest⟩ := hlt
    have hdrop : (rest.length + 4) / 4 * 4 = rest.length / 4 * 4 + 4 := by omega
    simp only [List.length_cons, Nat.add_assoc, Nat.reduceAdd, hdrop, List.drop_succ_cons]
      at hlength hclean
    have htail : encode (join rest) = rest.map symbol := ih hrest (by omega) hclean
    have hfirst : (a * 4 + b / 16) % 2 ^ 8 / 4 = a := by omega
    have hsecond :
        (a * 4 + b / 16) % 2 ^ 8 % 4 * 16 + (b % 16 * 16 + c / 4) % 2 ^ 8 / 16 = b := by omega
    have hthird :
        (b % 16 * 16 + c / 4) % 2 ^ 8 % 16 * 4 + (c % 4 * 64 + d) % 2 ^ 8 / 64 = c := by omega
    have hfourth : (c % 4 * 64 + d) % 2 ^ 8 % 64 = d := by omega
    simp only [encode, UInt8.toNat_ofNat', hfirst, hsecond, hthird, hfourth, htail, List.map_cons]
  | case2 a b c =>
    simp only [List.forall_mem_cons] at hlt
    obtain ⟨ha, hb, hc, -⟩ := hlt
    -- of the third value only the four leading bits belong to a byte
    have hlast : c % 4 = 0 := by simpa [hasSuperfluousBits] using hclean
    have hfirst : (a * 4 + b / 16) % 2 ^ 8 / 4 = a := by omega
    have hsecond :
        (a * 4 + b / 16) % 2 ^ 8 % 4 * 16 + (b % 16 * 16 + c / 4) % 2 ^ 8 / 16 = b := by omega
    have hthird : (b % 16 * 16 + c / 4) % 2 ^ 8 % 16 * 4 = c := by omega
    simp only [encode, UInt8.toNat_ofNat', hfirst, hsecond, hthird, List.map_cons, List.map_nil]
  | case3 a b =>
    simp only [List.forall_mem_cons] at hlt
    obtain ⟨ha, hb, -⟩ := hlt
    have hlast : b % 16 = 0 := by simpa [hasSuperfluousBits] using hclean
    have hfirst : (a * 4 + b / 16) % 2 ^ 8 / 4 = a := by omega
    have hsecond : (a * 4 + b / 16) % 2 ^ 8 % 4 * 16 = b := by omega
    simp only [encode, UInt8.toNat_ofNat', hfirst, hsecond, List.map_cons, List.map_nil]
  | case4 vs h4 h3 h2 =>
    match vs with
    | [] => rfl
    | [_] => simp at hlength
    | [a, b] => exact absurd rfl (h2 a b)
    | [a, b, c] => exact absurd rfl (h3 a b c)
    | a :: b :: c :: d :: rest => exact absurd rfl (h4 a b c d rest)

/-! ## Texts without a fault -/

theorem isSymbol_of_firstForeign? {offset : Nat} {bs : List UInt8}
    (h : firstForeign? offset bs = none) : ∀ b ∈ bs, IsSymbol b := by
  fun_induction firstForeign? offset bs with
  | case1 => simp
  | case2 offset b bs hb => cases h
  | case3 offset b bs hb ih =>
    simp only [List.forall_mem_cons]
    exact ⟨by simpa [IsSymbol, Option.isSome_iff_ne_none] using hb, ih h⟩

/-- What a last group without a fault is like. -/
theorem of_faultOfGroup? {offset : Nat} {group : List UInt8}
    (h : faultOfGroup? offset group = none) :
    (∀ b ∈ group, IsSymbol b) ∧ 2 ≤ group.length ∧
      hasSuperfluousBits (group.filterMap value?) = false := by
  simp only [faultOfGroup?] at h
  split at h
  · cases h
  · next hlength =>
    split at h
    · cases h
    · next hsymbols =>
      rw [ne_eq, Decidable.not_not] at hsymbols
      split at h
      · next hbits =>
        rw [Option.map_eq_none_iff, List.getLast?_eq_none_iff] at h
        rw [h] at hlength
        exact absurd Nat.two_pos hlength
      · next hbits =>
        exact ⟨List.filterMap_length_eq_length.1 hsymbols.symm, by omega, by simpa using hbits⟩

/-- What a text without a fault is like: `encode_join` applies to its values. -/
theorem of_fault? {text : List UInt8} (h : fault? text = none) :
    (∀ b ∈ text, IsSymbol b) ∧ text.length % 4 ≠ 1 ∧
      hasSuperfluousBits ((text.filterMap value?).drop (text.length / 4 * 4)) = false := by
  unfold fault? at h
  split at h
  · next hempty =>
    rw [List.isEmpty_iff.1 hempty]
    exact ⟨by simp, by decide, rfl⟩
  · next hne =>
    have hpos : 0 < text.length := List.length_pos_iff.2 fun hnil => hne (by rw [hnil]; rfl)
    simp only [Option.or_eq_none_iff] at h
    obtain ⟨⟨⟨-, hstart⟩, -⟩, hgroup⟩ := h
    generalize hk : (text.length - 1) / 4 * 4 = k at hstart hgroup
    obtain ⟨hsymbols, hlength, hbits⟩ := of_faultOfGroup? hgroup
    rw [List.length_drop] at hlength
    have hfront : ∀ b ∈ text.take k, IsSymbol b := isSymbol_of_firstForeign? hstart
    refine ⟨fun b hb => ?_, by omega, ?_⟩
    · rw [← List.take_append_drop k text] at hb
      exact (List.mem_append.1 hb).elim (hfront b) (hsymbols b)
    · by_cases hfull : text.length % 4 = 0
      · -- the last group has four symbols, so that nothing stands behind the whole groups
        have hvalues : (text.filterMap value?).length ≤ text.length / 4 * 4 :=
          Nat.le_trans (List.length_filterMap_le _ _) (by omega)
        rw [List.drop_of_length_le hvalues]
        rfl
      · have hwhole : text.length / 4 * 4 = k := by omega
        rwa [hwhole, drop_filterMap_value? hfront (by omega)]

/-- **Base64 is read strictly.**  A text from which bytes are read is the text that is written for
these bytes. -/
theorem eq_encode_of_decode {text bs : List UInt8} (h : decode text = .ok bs) :
    text = encode bs := by
  unfold decode at h
  split at h
  · cases h
  · next hfault =>
    cases h
    obtain ⟨hsymbols, hlength, hclean⟩ := of_fault? hfault
    have hvalues : (text.filterMap value?).length = text.length := length_filterMap_value? hsymbols
    have hlt : ∀ v ∈ text.filterMap value?, v < 64 := by
      intro v hv
      obtain ⟨b, -, hb⟩ := List.mem_filterMap.1 hv
      exact (of_value? hb).1
    rw [encode_join hlt (by rwa [hvalues]) (by rwa [hvalues]), map_symbol_filterMap hsymbols]

/-! ## Texts that are written -/

theorem value?_symbol {v : Nat} (h : v < 64) : value? (symbol v) = some v := by
  have hall : ∀ v < 64, value? (symbol v) = some v := by decide
  exact hall v h

/-- The values for whose symbols bytes are written. -/
def sextets : List UInt8 → List Nat
  | [] => []
  | [a] => [a.toNat / 4, a.toNat % 4 * 16]
  | [a, b] => [a.toNat / 4, a.toNat % 4 * 16 + b.toNat / 16, b.toNat % 16 * 4]
  | a :: b :: c :: rest =>
    a.toNat / 4 :: (a.toNat % 4 * 16 + b.toNat / 16) :: (b.toNat % 16 * 4 + c.toNat / 64) ::
      c.toNat % 64 :: sextets rest

theorem encode_eq_map (bs : List UInt8) : encode bs = (sextets bs).map symbol := by
  fun_induction encode bs with
  | case1 => rfl
  | case2 a => rfl
  | case3 a b => rfl
  | case4 a b c rest ih => rw [sextets, ih]; rfl

theorem join_sextets (bs : List UInt8) : join (sextets bs) = bs := by
  fun_induction sextets bs with
  | case1 => rfl
  | case2 a =>
    have ha := a.toNat_lt
    rw [join, List.cons.injEq, ← UInt8.toNat_inj, UInt8.toNat_ofNat']
    exact ⟨by omega, rfl⟩
  | case3 a b =>
    have ha := a.toNat_lt
    have hb := b.toNat_lt
    rw [join, List.cons.injEq, List.cons.injEq, ← UInt8.toNat_inj, ← UInt8.toNat_inj,
      UInt8.toNat_ofNat', UInt8.toNat_ofNat']
    exact ⟨by omega, by omega, rfl⟩
  | case4 a b c rest ih =>
    have ha := a.toNat_lt
    have hb := b.toNat_lt
    have hc := c.toNat_lt
    rw [join, ih, List.cons.injEq, List.cons.injEq, List.cons.injEq, ← UInt8.toNat_inj,
      ← UInt8.toNat_inj, ← UInt8.toNat_inj, UInt8.toNat_ofNat', UInt8.toNat_ofNat',
      UInt8.toNat_ofNat']
    exact ⟨by omega, by omega, by omega, rfl⟩

/-- What the values of bytes are like: their symbols make up a text without a fault. -/
theorem of_sextets (bs : List UInt8) :
    (∀ v ∈ sextets bs, v < 64) ∧ (sextets bs).length % 4 ≠ 1 ∧
      hasSuperfluousBits ((sextets bs).drop ((sextets bs).length / 4 * 4)) = false := by
  fun_induction sextets bs with
  | case1 => exact ⟨by simp, by decide, rfl⟩
  | case2 a =>
    have ha := a.toNat_lt
    refine ⟨by simp; omega, by simp, ?_⟩
    simp [hasSuperfluousBits]
  | case3 a b =>
    have ha := a.toNat_lt
    have hb := b.toNat_lt
    refine ⟨by simp; omega, by simp, ?_⟩
    simp [hasSuperfluousBits]
  | case4 a b c rest ih =>
    obtain ⟨hlt, hlength, hclean⟩ := ih
    have ha := a.toNat_lt
    have hb := b.toNat_lt
    have hc := c.toNat_lt
    have hdrop : ((sextets rest).length + 4) / 4 * 4 = (sextets rest).length / 4 * 4 + 4 := by omega
    refine ⟨?_, ?_, ?_⟩
    · simp only [List.forall_mem_cons]
      exact ⟨by omega, by omega, by omega, by omega, hlt⟩
    · simp only [List.length_cons]
      omega
    · simp only [List.length_cons, Nat.add_assoc, Nat.reduceAdd, hdrop, List.drop_succ_cons]
      exact hclean

/-- Bytes are written with symbols. -/
theorem isSymbol_of_mem_encode {b : UInt8} {bs : List UInt8} (h : b ∈ encode bs) : IsSymbol b := by
  rw [encode_eq_map] at h
  obtain ⟨v, hv, rfl⟩ := List.mem_map.1 h
  rw [IsSymbol, value?_symbol ((of_sextets bs).1 v hv)]
  rfl

theorem firstForeign?_eq_none {bs : List UInt8} (h : ∀ b ∈ bs, IsSymbol b) (offset : Nat) :
    firstForeign? offset bs = none := by
  induction bs generalizing offset with
  | nil => rfl
  | cons b bs ih =>
    rw [List.forall_mem_cons] at h
    have hb : (value? b).isNone = false := by simpa [IsSymbol, Option.isSome_iff_ne_none] using h.1
    rw [firstForeign?, hb, if_neg Bool.false_ne_true, ih h.2]

theorem foreignInGroup?_eq_none {bs : List UInt8} (h : ∀ b ∈ bs, IsSymbol b) (offset i : Nat) :
    foreignInGroup? offset i none bs = none := by
  induction bs generalizing i with
  | nil => rfl
  | cons b bs ih =>
    rw [List.forall_mem_cons] at h
    have hb : (value? b).isNone = false := by simpa [IsSymbol, Option.isSome_iff_ne_none] using h.1
    have hfilling : b ≠ byte '=' := by
      rintro rfl
      exact absurd h.1 (show ¬ (value? (byte '=')).isSome = true by decide)
    simp [foreignInGroup?, hfilling, hb, ih h.2]

/-- A text to which `encode_join` applies has no fault. -/
theorem fault?_eq_none {text : List UInt8} (hsymbols : ∀ b ∈ text, IsSymbol b)
    (hlength : text.length % 4 ≠ 1)
    (hclean : hasSuperfluousBits ((text.filterMap value?).drop (text.length / 4 * 4)) = false) :
    fault? text = none := by
  rw [fault?]
  split
  · rfl
  · next hne =>
    have hpos : 0 < text.length := List.length_pos_iff.2 fun hnil => hne (by rw [hnil]; rfl)
    have hfront : ∀ k, ∀ b ∈ text.take k, IsSymbol b :=
      fun k b hb => hsymbols b (List.mem_of_mem_take hb)
    have hback : ∀ k, ∀ b ∈ text.drop k, IsSymbol b :=
      fun k b hb => hsymbols b (List.mem_of_mem_drop hb)
    have hbits :
        hasSuperfluousBits ((text.drop ((text.length - 1) / 4 * 4)).filterMap value?) = false := by
      by_cases hfull : text.length % 4 = 0
      · refine hasSuperfluousBits_of_length ?_
        rw [length_filterMap_value? (hback _), List.length_drop]
        omega
      · have hwhole : (text.length - 1) / 4 * 4 = text.length / 4 * 4 := by omega
        rwa [hwhole, ← drop_filterMap_value? (hfront _) (by omega)]
    simp only [trailingForeign?, if_neg hlength, firstForeign?_eq_none (hfront _),
      foreignInGroup?_eq_none (hback _), Option.none_or, faultOfGroup?,
      length_filterMap_value? (hback _), List.length_drop, hbits]
    rw [if_neg (by omega), if_neg (by simp), if_neg (by simp)]

/-- **What is written can be read.** -/
theorem decode_encode (bs : List UInt8) : decode (encode bs) = .ok bs := by
  obtain ⟨hlt, hlength, hclean⟩ := of_sextets bs
  have hvalues : (encode bs).filterMap value? = sextets bs := by
    rw [encode_eq_map, List.filterMap_map]
    exact (List.filterMap_congr fun v hv => value?_symbol (hlt v hv)).trans List.filterMap_some
  have hcount : (encode bs).length = (sextets bs).length := by rw [encode_eq_map, List.length_map]
  rw [decode, fault?_eq_none (fun b => isSymbol_of_mem_encode) (by rwa [hcount])
    (by rwa [hcount, hvalues]), hvalues, join_sextets]

end Base64Url
end Text
end Gatehouse
