import Gatehouse.Text.Base64Url
import Gatehouse.Text.Utf8

/-!
# Base64

The form of Base64 that is older than the one for URLs.  Its last two symbols are `+` and `/`, and
the last group is filled up with `=`, so that a text has four symbols for every three bytes, and
four for one or two bytes that are left over.  It is written here and never read.

* `isFull_encode` — every group is full.
* `mem_encode` — which bytes a text is made of.
-/

set_option autoImplicit false

namespace Gatehouse
namespace Text
namespace Base64

open Base64Url (byte)

/-- The symbol in place of one of the form for URLs. -/
def symbol (b : UInt8) : UInt8 :=
  if b = byte '-' then byte '+' else if b = byte '_' then byte '/' else b

/-- The symbols for a list of bytes. -/
def encode (bs : List UInt8) : List UInt8 :=
  let symbols := (Base64Url.encode bs).map symbol
  symbols ++ List.replicate ((4 - symbols.length % 4) % 4) (byte '=')

/-- Every group is full. -/
theorem isFull_encode (bs : List UInt8) : 4 ∣ (encode bs).length := by
  simp only [encode, List.length_append, List.length_replicate]
  omega

/-- A text is made of the symbols and of what fills up the last group. -/
theorem mem_encode {bs : List UInt8} {b : UInt8} (h : b ∈ encode bs) :
    (∃ s ∈ Base64Url.encode bs, b = symbol s) ∨ b = byte '=' := by
  rcases List.mem_append.1 h with h | h
  · obtain ⟨s, hs, rfl⟩ := List.mem_map.1 h
    exact Or.inl ⟨s, hs, rfl⟩
  · exact Or.inr (List.eq_of_mem_replicate h)

-- the example of RFC 7617
example :
    encode (Text.bytes "Aladdin:open sesame") = Text.bytes "QWxhZGRpbjpvcGVuIHNlc2FtZQ==" := by
  decide +kernel

end Base64
end Text
end Gatehouse
