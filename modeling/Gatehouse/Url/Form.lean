import Gatehouse.Text.Pieces
import Gatehouse.Url.Percent

/-!
# Queries

The form in which a list of names and values is written into the query of a URL: names and values
are joined by `=`, pairs by `&`, a blank becomes `+`, and every byte that is not a letter, a digit
or one of `*-._` becomes a percent sign and two hexadecimal digits.

Reading undoes this, and accepts more than is ever written: a percent sign that is not followed by
two digits stands for itself, empty pairs are passed over, a pair without `=` has an empty value,
and bytes that are not UTF-8 are read as `U+FFFD`.
-/

set_option autoImplicit false

namespace Gatehouse
namespace Url
namespace Form

open Percent (byte)

/-! ## Writing -/

/-- Whether a byte is written as it is. -/
def isPlain (b : UInt8) : Bool :=
  (byte '0' ≤ b && b ≤ byte '9') || (byte 'A' ≤ b && b ≤ byte 'Z') ||
    (byte 'a' ≤ b && b ≤ byte 'z') || b == byte '*' || b == byte '-' || b == byte '.' ||
    b == byte '_'

/-- A byte of a name or a value as it is written. -/
def encodeByte (b : UInt8) : List UInt8 :=
  if isPlain b then [b] else if b = byte ' ' then [byte '+'] else Percent.escape b

/-- A name or a value as it is written. -/
def encode (bs : List UInt8) : List UInt8 :=
  bs.flatMap encodeByte

/-- A name with its value. -/
def encodePair (p : String × String) : List UInt8 :=
  encode (Text.bytes p.1) ++ byte '=' :: encode (Text.bytes p.2)

/-- Names with their values. -/
def encodePairs : List (String × String) → List UInt8
  | [] => []
  | [p] => encodePair p
  | p :: ps => encodePair p ++ byte '&' :: encodePairs ps

/-- The query that holds some names and values.  It has only ASCII characters. -/
def render (pairs : List (String × String)) : String :=
  String.ofList ((encodePairs pairs).map fun b => Char.ofNat b.toNat)

/-! ## Reading -/

/-- The bytes of a name or a value, as they were before writing. -/
def decode (bs : List UInt8) : List UInt8 :=
  Percent.decode (bs.map fun b => if b = byte '+' then byte ' ' else b)

/-- A name with its value. -/
def decodePair (bs : List UInt8) : String × String :=
  let r := Text.cut (· == byte '=') bs
  (Text.Utf8.decodeLossy (decode r.1), Text.Utf8.decodeLossy (decode (r.2.getD [])))

/-- The names and values of a query. -/
def parse (query : String) : List (String × String) :=
  ((Text.pieces (· == byte '&') (Text.bytes query)).filter fun p => !p.isEmpty).map decodePair

end Form
end Url
end Gatehouse
