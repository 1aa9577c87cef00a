import Gatehouse.Proofs.Url.Spelling

/-!
# What a query holds

The characters that cannot stand in the query of a URL are written with percent signs, and the names
and values that are read from the query are those that were in it before.  Whatever is put in front
of a query with a question mark between is another matter: something is then read that was not
there.

* `Form.parse_encode` — a query holds the same names and values after it has been written.
* `Form.parse_append_ne` — a query behind a question mark never holds the same as by itself.
-/

set_option autoImplicit false

namespace Gatehouse
namespace Url

open Percent (byte escape IsInert)

/-! ## Written queries -/

namespace Percent

/-- The bytes of a text in which a set of bytes has been escaped. -/
def escapeIn (set : UInt8 → Bool) (bs : List UInt8) : List UInt8 :=
  bs.flatMap fun b => if set b then escape b else [b]

/-- A set of bytes that can be escaped without a change to the form of a query: they play no part in
escapes and do not separate anything.  All bytes beyond ASCII are in it. -/
structure KeepsForm (set : UInt8 → Bool) : Prop where
  inert : ∀ {b}, set b = true → IsInert b
  no_plus : ∀ {b}, set b = true → b ≠ byte '+'
  no_separator : ∀ {b}, set b = true → b ≠ byte '&' ∧ b ≠ byte '='
  ascii : ∀ {b}, set b = false → b < 0x80

theorem keepsForm_of_all {set : UInt8 → Bool}
    (h : ∀ n < 256, let b := UInt8.ofNat n
      if set b then b ≠ byte '%' ∧ hexValue? b = none ∧ b ≠ byte '+' ∧ b ≠ byte '&' ∧ b ≠ byte '='
      else b < 0x80) : KeepsForm set := by
  have hall : ∀ b, if set b then
      b ≠ byte '%' ∧ hexValue? b = none ∧ b ≠ byte '+' ∧ b ≠ byte '&' ∧ b ≠ byte '='
      else b < 0x80 := by
    intro b
    have hb := h b.toNat b.toNat_lt
    rwa [UInt8.ofNat_toNat] at hb
  have hin : ∀ {b}, set b = true →
      b ≠ byte '%' ∧ hexValue? b = none ∧ b ≠ byte '+' ∧ b ≠ byte '&' ∧ b ≠ byte '=' := by
    intro b hset
    have hb := hall b
    rwa [if_pos hset] at hb
  refine ⟨fun hset => ⟨(hin hset).1, (hin hset).2.1⟩, fun hset => (hin hset).2.2.1,
    fun hset => (hin hset).2.2.2, fun {b} hset => ?_⟩
  have hb := hall b
  rwa [if_neg (by rw [hset]; exact Bool.false_ne_true)] at hb

theorem keepsForm_inQuery : KeepsForm inQuery :=
  keepsForm_of_all (by decide +kernel)

theorem keepsForm_inSpecialQuery : KeepsForm inSpecialQuery :=
  keepsForm_of_all (by decide +kernel)

/-- The digits of an escape are ASCII, and neither they nor the percent sign separate anything. -/
theorem of_mem_escape {b d : UInt8} (h : d ∈ escape b) :
    d < 0x80 ∧ d ≠ byte '+' ∧ d ≠ byte '&' ∧ d ≠ byte '=' := by
  have hall : ∀ n < 256, (escape (UInt8.ofNat n)).all (fun d =>
      d < 0x80 ∧ d ≠ byte '+' ∧ d ≠ byte '&' ∧ d ≠ byte '=') = true := by
    decide +kernel
  have hb := hall b.toNat b.toNat_lt
  rw [UInt8.ofNat_toNat] at hb
  exact of_decide_eq_true (List.all_eq_true.1 hb d h)

theorem utf8EncodeChar_ofNat {b : UInt8} (h : b < 0x80) :
    String.utf8EncodeChar (Char.ofNat b.toNat) = [b] := by
  have hlt : b.toNat < 0x80 := UInt8.lt_iff_toNat_lt.1 h
  have hvalid : b.toNat.isValidChar := Or.inl (by omega)
  have hnat : (Char.ofNat b.toNat).toNat = b.toNat := by
    rw [Char.ofNat, dif_pos hvalid]
    exact UInt32.toNat_ofNatLT
  rw [Text.utf8EncodeChar_of_ascii (by rwa [hnat]), hnat, UInt8.ofNat_toNat]

theorem flatMap_utf8EncodeChar {bs : List UInt8} (h : ∀ b ∈ bs, b < 0x80) :
    (bs.map fun b => Char.ofNat b.toNat).flatMap String.utf8EncodeChar = bs := by
  induction bs with
  | nil => rfl
  | cons b bs ih =>
    rw [List.map_cons, List.flatMap_cons, utf8EncodeChar_ofNat (h b List.mem_cons_self),
      ih fun d hd => h d (List.mem_cons_of_mem b hd), List.singleton_append]

/-- The bytes of a written text are those of the text with some of them escaped. -/
theorem bytes_encode {set : UInt8 → Bool} (hset : KeepsForm set) (cs : List Char) :
    Text.bytes (String.ofList (encode set cs)) =
      escapeIn set (Text.bytes (String.ofList cs)) := by
  rw [Text.bytes_ofList, encode, List.flatMap_assoc, escapeIn]
  congr 1
  funext b
  rw [encodeByte]
  cases hb : set b with
  | true => exact flatMap_utf8EncodeChar fun d hd => (of_mem_escape hd).1
  | false =>
    refine flatMap_utf8EncodeChar fun d hd => ?_
    rw [List.mem_singleton.1 hd]
    exact hset.ascii hb

end Percent

namespace Form

open Percent

variable {set : UInt8 → Bool}

theorem decode_escapeIn (hset : KeepsForm set) (bs : List UInt8) :
    decode (escapeIn set bs) = decode bs := by
  refine Spells.decode_eq ?_
  induction bs with
  | nil => exact .nil
  | cons b bs ih =>
    rw [escapeIn, List.flatMap_cons, List.map_append, List.map_cons]
    cases hb : set b with
    | true =>
      have hescape : (escape b).map (fun d => if d = byte '+' then byte ' ' else d) = escape b := by
        conv => rhs; rw [← List.map_id (escape b)]
        exact List.map_congr_left fun d hd => if_neg (of_mem_escape hd).2.1
      rw [if_pos rfl, hescape, if_neg (hset.no_plus hb)]
      exact .escaped (hset.inert hb) ih
    | false => exact .same _ ih

theorem of_sep {sep : UInt8} (hsep : ∀ {b}, set b = true → b ≠ sep) (b : UInt8)
    (h : (b == sep) = true) : (if set b then escape b else [b]) = [b] := by
  cases hb : set b with
  | false => rfl
  | true => exact absurd (beq_iff_eq.1 h) (hsep hb)

theorem of_not_sep {sep : UInt8} (hsep : ∀ b, ∀ d ∈ escape b, d ≠ sep) (b : UInt8)
    (h : (b == sep) = false) : ∀ d ∈ (if set b then escape b else [b]), (d == sep) = false := by
  intro d hd
  cases hb : set b with
  | false =>
    rw [hb] at hd
    rw [List.mem_singleton.1 hd]
    exact h
  | true =>
    rw [hb] at hd
    exact beq_eq_false_iff_ne.2 (hsep b d hd)

theorem cut_escapeIn (hset : KeepsForm set) (bs : List UInt8) :
    Text.cut (· == byte '=') (escapeIn set bs) =
      (escapeIn set (Text.cut (· == byte '=') bs).1,
        (Text.cut (· == byte '=') bs).2.map (escapeIn set)) :=
  Text.cut_flatMap (of_sep fun hb => (hset.no_separator hb).2)
    (of_not_sep fun _ _ hd => (of_mem_escape hd).2.2.2) bs

theorem pieces_escapeIn (hset : KeepsForm set) (bs : List UInt8) :
    Text.pieces (· == byte '&') (escapeIn set bs) =
      (Text.pieces (· == byte '&') bs).map (escapeIn set) :=
  Text.pieces_flatMap (of_sep fun hb => (hset.no_separator hb).1)
    (of_not_sep fun _ _ hd => (of_mem_escape hd).2.2.1) bs

theorem decodePair_escapeIn (hset : KeepsForm set) (bs : List UInt8) :
    decodePair (escapeIn set bs) = decodePair bs := by
  rw [decodePair, decodePair, cut_escapeIn hset, decode_escapeIn hset]
  cases (Text.cut (· == byte '=') bs).2 with
  | none => rfl
  | some value =>
    rw [Option.map_some, Option.getD_some, Option.getD_some, decode_escapeIn hset]

theorem isEmpty_escapeIn (bs : List UInt8) : (escapeIn set bs).isEmpty = bs.isEmpty := by
  cases bs with
  | nil => rfl
  | cons b bs =>
    rw [escapeIn, List.flatMap_cons]
    cases set b with
    | true | false => rfl

/-- **A query holds the same names and values after it has been written.** -/
theorem parse_encode (hset : KeepsForm set) (cs : List Char) :
    parse (String.ofList (Percent.encode set cs)) = parse (String.ofList cs) := by
  have hempty : (fun p : List UInt8 => !p.isEmpty) ∘ escapeIn set = fun p => !p.isEmpty :=
    funext fun p => congrArg not (isEmpty_escapeIn p)
  have hpair : decodePair ∘ escapeIn set = decodePair := funext (decodePair_escapeIn hset)
  rw [parse, parse, bytes_encode hset, pieces_escapeIn hset, List.filter_map, List.map_map, hempty,
    hpair]

/-! ## Queries behind a question mark -/

/-- How many characters the bytes of a name or a value are read as. -/
def decodedLength (bs : List UInt8) : Nat :=
  (Text.Utf8.decodeLossy (decode bs)).length

/-- A byte that stands for itself in a query, and is one character. -/
structure IsCounted (b : UInt8) : Prop where
  inert : IsInert b
  no_plus : b ≠ byte '+'
  ascii : b < 0x80

theorem isCounted_mark : IsCounted (byte '?') :=
  ⟨⟨by decide, by decide⟩, by decide, by decide⟩

theorem isCounted_equals : IsCounted (byte '=') :=
  ⟨⟨by decide, by decide⟩, by decide, by decide⟩

theorem decodedLength_append_cons {s : UInt8} (hs : IsCounted s) (front behind : List UInt8) :
    decodedLength (front ++ s :: behind) = decodedLength front + 1 + decodedLength behind := by
  rw [decodedLength, decode, List.map_append, List.map_cons, if_neg hs.no_plus,
    Percent.decode_append_cons hs.inert, Text.Utf8.length_decodeLossy_append_cons hs.ascii]
  rfl

/-- One if a pair has a value, and otherwise nothing. -/
def marks (bs : List UInt8) : Nat :=
  if (Text.cut (· == byte '=') bs).2.isSome then 1 else 0

/-- The name, the value and the mark between them are all there is of a pair. -/
theorem length_decodePair (bs : List UInt8) :
    (decodePair bs).1.length + (decodePair bs).2.length + marks bs = decodedLength bs := by
  unfold decodePair marks
  rcases hcut : Text.cut (· == byte '=') bs with ⟨front, _ | behind⟩
  · rw [Text.cut_none hcut]
    rfl
  · obtain ⟨sep, hsep, hbs⟩ := Text.cut_some hcut
    obtain rfl := beq_iff_eq.1 hsep
    have hlength := decodedLength_append_cons isCounted_equals front behind
    rw [← hbs] at hlength
    rw [hlength]
    show decodedLength front + decodedLength behind + 1 = _
    omega

theorem marks_append (front behind : List UInt8) :
    marks (front ++ behind) = marks front ∨ marks (front ++ behind) = marks behind := by
  unfold marks
  rcases hcut : Text.cut (· == byte '=') front with ⟨name, _ | value⟩
  · have hfree := Text.free_of_cut_none (congrArg Prod.snd hcut)
    rw [Text.cut_append_of_free hfree]
    exact .inr rfl
  · rw [Text.cut_append_of_some hcut]
    exact .inl rfl

/-- The characters of some names and values, and one more for each pair. -/
def weight : List (String × String) → Nat
  | [] => 0
  | p :: pairs => 1 + p.1.length + p.2.length + weight pairs

/-- The pair that a piece of a query is read as, if it is read as one. -/
def pairOf (piece : List UInt8) : List (String × String) :=
  if piece.isEmpty then [] else [decodePair piece]

theorem weight_append (pairs more : List (String × String)) :
    weight (pairs ++ more) = weight pairs + weight more := by
  induction pairs with
  | nil => exact (Nat.zero_add _).symm
  | cons p pairs ih => rw [List.cons_append, weight, weight, ih, Nat.add_assoc _ (weight pairs)]

theorem parse_eq_flatMap (query : String) :
    parse query = (Text.pieces (· == byte '&') (Text.bytes query)).flatMap pairOf := by
  unfold parse
  induction Text.pieces (· == byte '&') (Text.bytes query) with
  | nil => rfl
  | cons piece pieces ih =>
    rw [List.flatMap_cons, List.filter_cons, pairOf]
    cases piece.isEmpty with
    | true => exact ih
    | false => exact congrArg (decodePair piece :: ·) ih

/-- A piece that a question mark has joined to another outweighs what is behind the mark. -/
theorem weight_pairOf_lt (front piece : List UInt8) :
    weight (pairOf piece) < weight (pairOf (front ++ byte '?' :: piece)) := by
  have hjoined : weight (pairOf (front ++ byte '?' :: piece)) =
      1 + (decodePair (front ++ byte '?' :: piece)).1.length +
        (decodePair (front ++ byte '?' :: piece)).2.length := by
    cases front with
    | nil | cons b front => exact Nat.add_zero _
  have hpiece : weight (pairOf piece) ≤
      1 + (decodePair piece).1.length + (decodePair piece).2.length := by
    unfold pairOf
    split
    · exact Nat.zero_le _
    · exact Nat.le_refl _
  have hlength := length_decodePair (front ++ byte '?' :: piece)
  rw [decodedLength_append_cons isCounted_mark] at hlength
  have hmark : marks (byte '?' :: piece) = marks piece := rfl
  have hmarks := marks_append front (byte '?' :: piece)
  have hfront := length_decodePair front
  have hbehind := length_decodePair piece
  omega

/-- **A query behind a question mark never holds the same as by itself.** -/
theorem parse_append_ne (front query : List Char) :
    parse (String.ofList (front ++ '?' :: query)) ≠ parse (String.ofList query) := by
  have hbytes : Text.bytes (String.ofList (front ++ '?' :: query)) =
      Text.bytes (String.ofList front) ++ byte '?' :: Text.bytes (String.ofList query) := by
    simp only [Text.bytes_ofList, List.flatMap_append, List.flatMap_cons]
    rfl
  obtain ⟨piece, rest, hpieces⟩ := List.exists_cons_of_ne_nil
    (Text.pieces_ne_nil (· == byte '&') (Text.bytes (String.ofList query)))
  have hmarked : Text.pieces (· == byte '&') (byte '?' :: Text.bytes (String.ofList query)) =
      (byte '?' :: piece) :: rest := Text.pieces_cons_of_not_sep rfl hpieces
  obtain ⟨init, last, -, hjoined⟩ :=
    Text.exists_pieces_append (Text.bytes (String.ofList front)) hmarked
  intro heq
  have hweight := congrArg weight heq
  rw [parse_eq_flatMap, parse_eq_flatMap, hbytes, hjoined, hpieces, List.flatMap_append,
    List.flatMap_cons, List.flatMap_cons, weight_append, weight_append, weight_append] at hweight
  have hlt := weight_pairOf_lt last piece
  omega

end Form
end Url
end Gatehouse
