import Gatehouse.Text.Utf8

/-!
# Percent signs

A byte that cannot stand for itself in some part of a URL is written as a percent sign and two
hexadecimal digits.  Which bytes these are differs from part to part, so `encode` is given the set.

Reading undoes this for any set, and accepts more than is ever written: digits in small letters, and
a percent sign that is not followed by two digits, which stands for itself.
-/

set_option autoImplicit false

namespace Gatehouse
namespace Url
namespace Percent

/-- The byte of an ASCII character. -/
def byte (c : Char) : UInt8 :=
  UInt8.ofNat c.toNat

/-- The value of a hexadecimal digit. -/
def hexValue? (b : UInt8) : Option UInt8 :=
  if byte '0' ≤ b ∧ b ≤ byte '9' then some (b - byte '0')
  else if byte 'a' ≤ b ∧ b ≤ byte 'f' then some (b - byte 'a' + 10)
  else if byte 'A' ≤ b ∧ b ≤ byte 'F' then some (b - byte 'A' + 10)
  else none

/-- The capital hexadecimal digit of a value below sixteen. -/
def hexDigit (n : UInt8) : UInt8 :=
  if n < 10 then byte '0' + n else byte 'A' + (n - 10)

/-- A byte as a percent sign and two digits. -/
def escape (b : UInt8) : List UInt8 :=
  [byte '%', hexDigit (b / 16), hexDigit (b % 16)]

/-- The bytes that a list of bytes with percent signs stands for. -/
def decode : List UInt8 → List UInt8
  | [] => []
  | [a] => [a]
  | [a, b] => [a, b]
  | a :: b :: c :: rest =>
    if a = byte '%' then
      match hexValue? b, hexValue? c with
      | some hi, some lo => (hi * 16 + lo) :: decode rest
      | _, _ => a :: decode (b :: c :: rest)
    else a :: decode (b :: c :: rest)

/-! ## Sets of bytes -/

/-- Controls, and the bytes of characters that are not ASCII. -/
def isControl (b : UInt8) : Bool :=
  b < 0x20 || 0x7F ≤ b

/-- Whether a byte is one of the given characters. -/
def isOneOf (chars : String) (b : UInt8) : Bool :=
  chars.toList.any fun c => byte c == b

/-- The bytes that cannot stand in a query. -/
def inQuery (b : UInt8) : Bool :=
  isControl b || isOneOf " \"#<>" b

/-- The bytes that cannot stand in the query of a web address. -/
def inSpecialQuery (b : UInt8) : Bool :=
  inQuery b || b == byte '\''

/-- The bytes that cannot stand in a fragment. -/
def inFragment (b : UInt8) : Bool :=
  isControl b || isOneOf " \"<>\x60" b

/-- The bytes that cannot stand in a path. -/
def inPath (b : UInt8) : Bool :=
  inQuery b || isOneOf "?^\x60\x7b\x7d" b

/-- The bytes that cannot stand in a name or a password. -/
def inUserinfo (b : UInt8) : Bool :=
  inPath b || isOneOf "/:;=@[\\]|" b

/-! ## Texts -/

/-- A byte as it is written in a part of a URL where a set of bytes cannot stand. -/
def encodeByte (set : UInt8 → Bool) (b : UInt8) : List Char :=
  (if set b then escape b else [b]).map fun b => Char.ofNat b.toNat

/-- A text as it is written in a part of a URL where a set of bytes cannot stand. -/
def encode (set : UInt8 → Bool) (cs : List Char) : List Char :=
  (Text.bytes (String.ofList cs)).flatMap (encodeByte set)

end Percent
end Url
end Gatehouse
