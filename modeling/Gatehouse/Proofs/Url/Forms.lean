import Gatehouse.Http.Uri
import Gatehouse.Proofs.Url.Queries

/-!
# Queries that are written and read again

Names and values are written into a query with a few bytes that stand for themselves, a plus sign
for a blank, and percent signs for everything else.  What is written is in ASCII, and a separator in
it is never part of a name or a value.  So the query can be read again: it is cut where the pairs
were joined, each pair where its name and value were, and every byte is found as it was.

* `Form.decode_encode` — the bytes of a name or a value are read again.
* `Form.parse_render` — the names and values of a query are read again.
* `Form.isEmpty_render` — every pair is written with some character, be the name and the value
  empty.
* `Form.isQueryChar_render` — the characters of a query may stand in the query of a request target.
-/

set_option autoImplicit false

namespace Gatehouse
namespace Url
namespace Form

open Percent (byte escape of_mem_escape)

/-! ## Bytes -/

/-- Whether a byte can occur in a name or a value that has been written. -/
def isWritten (b : UInt8) : Bool :=
  isPlain b || b == byte '+' || b == byte '%'

/-- A byte that is written as it is has no other meaning. -/
theorem ne_of_isPlain {b : UInt8} (h : isPlain b = true) : b ≠ byte '+' ∧ b ≠ byte '%' := by
  constructor <;>
  · rintro rfl
    revert h
    decide

theorem isPlain_of_mem_escape {b d : UInt8} (h : d ∈ escape b) :
    isPlain d = true ∨ d = byte '%' := by
  have hall : ∀ n < 256,
      (escape (UInt8.ofNat n)).all (fun d => isPlain d || d == byte '%') = true := by
    decide +kernel
  have hb := hall b.toNat b.toNat_lt
  rw [UInt8.ofNat_toNat] at hb
  simpa using List.all_eq_true.1 hb d h

theorem isWritten_of_mem_encodeByte {b d : UInt8} (h : d ∈ encodeByte b) : isWritten d = true := by
  unfold encodeByte at h
  split at h
  · next hplain =>
    obtain rfl := List.mem_singleton.1 h
    simp [isWritten, hplain]
  · split at h
    · obtain rfl := List.mem_singleton.1 h
      decide
    · rcases isPlain_of_mem_escape h with hplain | rfl
      · simp [isWritten, hplain]
      · decide

theorem isWritten_of_mem_encode {bs : List UInt8} {d : UInt8} (h : d ∈ encode bs) :
    isWritten d = true := by
  obtain ⟨b, -, hd⟩ := List.mem_flatMap.1 h
  exact isWritten_of_mem_encodeByte hd

/-- A byte is read again from what is written for it. -/
theorem decode_encodeByte_append (b : UInt8) (bs : List UInt8) :
    decode (encodeByte b ++ bs) = b :: decode bs := by
  rw [decode, List.map_append, encodeByte]
  split
  · next hplain =>
    obtain ⟨hplus, hpercent⟩ := ne_of_isPlain hplain
    rw [List.map_singleton, if_neg hplus]
    exact Percent.decode_cons_of_ne hpercent _
  · split
    · next hblank =>
      subst hblank
      exact Percent.decode_cons_of_ne (by decide) _
    · have hescape : (escape b).map (fun d => if d = byte '+' then byte ' ' else d) = escape b := by
        conv => rhs; rw [← List.map_id (escape b)]
        exact List.map_congr_left fun d hd => if_neg (of_mem_escape hd).2.1
      rw [hescape]
      exact Percent.decode_escape b _

/-- **The bytes of a name or a value are read again.** -/
theorem decode_encode (bs : List UInt8) : decode (encode bs) = bs := by
  induction bs with
  | nil => rfl
  | cons b bs ih =>
    rw [encode, List.flatMap_cons, decode_encodeByte_append]
    exact congrArg (b :: ·) ih

/-! ## Pairs -/

/-- Neither of the separators is written for a name or a value. -/
theorem ne_of_isWritten {b : UInt8} (h : isWritten b = true) : b ≠ byte '&' ∧ b ≠ byte '=' := by
  constructor <;>
  · rintro rfl
    revert h
    decide

/-- A pair is read again. -/
theorem decodePair_encodePair (p : String × String) : decodePair (encodePair p) = p := by
  have hname : ∀ b ∈ encode (Text.bytes p.1), (b == byte '=') = false := fun b hb =>
    beq_eq_false_iff_ne.2 (ne_of_isWritten (isWritten_of_mem_encode hb)).2
  have hcut : Text.cut (· == byte '=') (encodePair p) =
      (encode (Text.bytes p.1), some (encode (Text.bytes p.2))) := by
    have hsep : Text.cut (· == byte '=') (byte '=' :: encode (Text.bytes p.2)) =
        ([], some (encode (Text.bytes p.2))) := Text.cut_cons_sep rfl _
    rw [encodePair, Text.cut_append_of_free hname, hsep, List.append_nil]
  rw [decodePair, hcut, Option.getD_some, decode_encode, decode_encode,
    Text.Utf8.decodeLossy_bytes, Text.Utf8.decodeLossy_bytes]

theorem free_of_mem_encodePair {p : String × String} :
    ∀ b ∈ encodePair p, (b == byte '&') = false := by
  intro b hb
  rw [beq_eq_false_iff_ne]
  rcases List.mem_append.1 hb with hb | hb
  · exact (ne_of_isWritten (isWritten_of_mem_encode hb)).1
  · rcases List.mem_cons.1 hb with rfl | hb
    · decide
    · exact (ne_of_isWritten (isWritten_of_mem_encode hb)).1

theorem encodePair_ne_nil (p : String × String) : encodePair p ≠ [] := by
  rw [encodePair]
  exact List.append_ne_nil_of_right_ne_nil _ (List.cons_ne_nil _ _)

/-- The pieces of what is written are the pairs, if there are any. -/
theorem pieces_encodePairs (p : String × String) (pairs : List (String × String)) :
    Text.pieces (· == byte '&') (encodePairs (p :: pairs)) = (p :: pairs).map encodePair := by
  induction pairs generalizing p with
  | nil => exact Text.pieces_of_free free_of_mem_encodePair
  | cons q pairs ih =>
    have hsep : Text.pieces (· == byte '&') (encodePairs (p :: q :: pairs)) =
        Text.pieces (· == byte '&') (encodePair p) ++
          Text.pieces (· == byte '&') (encodePairs (q :: pairs)) :=
      Text.pieces_append_cons rfl (encodePair p) (encodePairs (q :: pairs))
    rw [hsep, ih, Text.pieces_of_free free_of_mem_encodePair]
    rfl

/-! ## Whole queries -/

/-- A byte of a query is one that is written, or joins what is. -/
theorem of_mem_encodePairs {pairs : List (String × String)} {b : UInt8}
    (h : b ∈ encodePairs pairs) : isWritten b = true ∨ b = byte '=' ∨ b = byte '&' := by
  have hpair : ∀ p : String × String, b ∈ encodePair p → isWritten b = true ∨ b = byte '=' := by
    intro p hb
    rcases List.mem_append.1 hb with hb | hb
    · exact .inl (isWritten_of_mem_encode hb)
    · exact (List.mem_cons.1 hb).symm.imp_left isWritten_of_mem_encode
  fun_induction encodePairs pairs with
  | case1 => cases h
  | case2 p => exact (hpair p h).imp_right .inl
  | case3 p pairs _ ih =>
    rcases List.mem_append.1 h with h | h
    · exact (hpair p h).imp_right .inl
    · rcases List.mem_cons.1 h with h | h
      · exact .inr (.inr h)
      · exact ih h

theorem ascii_of_mem_encodePairs {pairs : List (String × String)} {b : UInt8}
    (h : b ∈ encodePairs pairs) : b < 0x80 := by
  have hall : ∀ n < 256, isWritten (UInt8.ofNat n) = true → UInt8.ofNat n < 0x80 := by
    decide +kernel
  have hb := hall b.toNat b.toNat_lt
  rw [UInt8.ofNat_toNat] at hb
  rcases of_mem_encodePairs h with hwritten | rfl | rfl
  · exact hb hwritten
  · decide
  · decide

theorem bytes_render (pairs : List (String × String)) :
    Text.bytes (render pairs) = encodePairs pairs := by
  rw [render, Text.bytes_ofList]
  exact Percent.flatMap_utf8EncodeChar fun b hb => ascii_of_mem_encodePairs hb

/-- **The names and values of a query are read again.** -/
theorem parse_render (pairs : List (String × String)) : parse (render pairs) = pairs := by
  rw [parse, bytes_render]
  cases pairs with
  | nil => rfl
  | cons p pairs =>
    have hfull : ∀ piece ∈ (p :: pairs).map encodePair, (!piece.isEmpty) = true := by
      intro piece hpiece
      obtain ⟨q, -, rfl⟩ := List.mem_map.1 hpiece
      rw [Bool.not_eq_true', List.isEmpty_eq_false_iff]
      exact encodePair_ne_nil q
    have hread : decodePair ∘ encodePair = id := funext decodePair_encodePair
    rw [pieces_encodePairs, List.filter_eq_self.2 hfull, List.map_map, hread, List.map_id]

/-- Nothing is written just if there are no pairs. -/
theorem isEmpty_render (pairs : List (String × String)) :
    (render pairs).isEmpty = pairs.isEmpty := by
  rw [Bool.eq_iff_iff, String.isEmpty_iff, List.isEmpty_iff]
  refine ⟨fun hempty => ?_, fun hnone => by rw [hnone]; rfl⟩
  have hnone : parse "" = [] := parse_render []
  have hpairs := parse_render pairs
  rw [hempty, hnone] at hpairs
  exact hpairs.symm

/-- **A query is made of characters that may stand in the query of a request target.** -/
theorem isQueryChar_render {pairs : List (String × String)} {c : Char}
    (h : c ∈ (render pairs).toList) : Http.Uri.isQueryChar c = true := by
  have hall : ∀ n < 256, isWritten (UInt8.ofNat n) = true →
      Http.Uri.isQueryChar (Char.ofNat (UInt8.ofNat n).toNat) = true := by
    decide +kernel
  rw [render, String.toList_ofList] at h
  obtain ⟨b, hb, rfl⟩ := List.mem_map.1 h
  have hchar := hall b.toNat b.toNat_lt
  rw [UInt8.ofNat_toNat] at hchar
  rcases of_mem_encodePairs hb with hwritten | rfl | rfl
  · exact hchar hwritten
  · decide
  · decide

/-- A name and a value with characters of every kind. -/
example : render [("title", "A&B = 50% é+")] = "title=A%26B+%3D+50%25+%C3%A9%2B" := by
  decide +kernel

end Form
end Url
end Gatehouse
