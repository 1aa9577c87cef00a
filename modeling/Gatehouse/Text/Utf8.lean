/-!
# UTF-8

Header values, bodies and tokens arrive as bytes.  `decode` reads a list of bytes in one pass and
answers a list with one entry per character: `some c` for a well-formed sequence, and `none` for
each *maximal ill-formed part*, that is the longest run of bytes that could still have begun a
sequence, or a single byte that could begin none.  The two common readings are views of that list:

* `decode?` — the text, if there is no ill-formed part at all;
* `decodeLossy` — the text with `U+FFFD` in place of every ill-formed part.

The bounds on the second byte of a sequence are those of the Unicode standard (table 3-7): they keep
out overlong forms, surrogates and values above `U+10FFFF`, so every completed value is a character.
-/

set_option autoImplicit false

namespace Gatehouse
namespace Text

/-- The bytes of a text. -/
def bytes (s : String) : List UInt8 :=
  s.toUTF8.toList

namespace Utf8

/-- A sequence that has begun: how many bytes are still owed, the bounds on the next of them, and
the value of the bits read so far. -/
structure Pending where
  owed : Nat
  lo : UInt8
  hi : UInt8
  value : Nat
deriving Repr, DecidableEq

/-- What one byte begins: a whole character, a longer sequence, or nothing. -/
inductive Lead where
  | whole (c : Char)
  | begins (p : Pending)
  | nothing

/-- Read a byte in first position. -/
def lead (b : UInt8) : Lead :=
  let n := b.toNat
  if b ≤ 0x7F then .whole (Char.ofNat n)
  else if b < 0xC2 then .nothing
  else if b ≤ 0xDF then .begins ⟨1, 0x80, 0xBF, n - 0xC0⟩
  else if b = 0xE0 then .begins ⟨2, 0xA0, 0xBF, 0⟩
  else if b = 0xED then .begins ⟨2, 0x80, 0x9F, 0xD⟩
  else if b ≤ 0xEF then .begins ⟨2, 0x80, 0xBF, n - 0xE0⟩
  else if b = 0xF0 then .begins ⟨3, 0x90, 0xBF, 0⟩
  else if b ≤ 0xF3 then .begins ⟨3, 0x80, 0xBF, n - 0xF0⟩
  else if b = 0xF4 then .begins ⟨3, 0x80, 0x8F, 4⟩
  else .nothing

/-- Decode the rest of the bytes, with the sequence in progress if there is one. -/
def decodeFrom : Option Pending → List UInt8 → List (Option Char)
  | none, [] => []
  | some _, [] => [none]
  | none, b :: bs =>
    match lead b with
    | .whole c => some c :: decodeFrom none bs
    | .begins p => decodeFrom (some p) bs
    | .nothing => none :: decodeFrom none bs
  | some p, b :: bs =>
    if p.lo ≤ b ∧ b ≤ p.hi then
      let value := p.value * 64 + (b.toNat - 0x80)
      if p.owed ≤ 1 then some (Char.ofNat value) :: decodeFrom none bs
      else decodeFrom (some ⟨p.owed - 1, 0x80, 0xBF, value⟩) bs
    else
      match lead b with
      | .whole c => none :: some c :: decodeFrom none bs
      | .begins q => none :: decodeFrom (some q) bs
      | .nothing => none :: none :: decodeFrom none bs

/-- The characters of a list of bytes, with `none` for every maximal ill-formed part. -/
def decode (bs : List UInt8) : List (Option Char) :=
  decodeFrom none bs

/-- The text of a list of bytes, if it is well-formed throughout. -/
def decode? (bs : List UInt8) : Option String :=
  ((decode bs).mapM id).map String.ofList

/-- The text of a list of bytes, with `U+FFFD` in place of every ill-formed part. -/
def decodeLossy (bs : List UInt8) : String :=
  String.ofList ((decode bs).map (·.getD '\uFFFD'))

end Utf8
end Text
end Gatehouse
