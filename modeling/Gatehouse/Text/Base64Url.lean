/-!
# Base64 for URLs

Bytes are written six bits at a time, each as one of sixty-four symbols: the letters, the digits,
`-` and `_`.  Nothing fills up the last group, so a text has four symbols for every three bytes, and
two or three more for one or two bytes that are left over.

Reading is strict.  `fault?` finds what is wrong with a text, and where; if nothing is, the bytes
are those of `join`.  Two things beside a foreign symbol are wrong: a length that no bytes have, and
bits that are set in the last symbol although no byte needs them, so that no two texts stand for the
same bytes.  The sign `=`, which fills up groups in other forms of Base64, is a foreign symbol
except where such a form would have it, at the end of the last group; there it is reported as
padding.
-/

set_option autoImplicit false

namespace Gatehouse
namespace Text
namespace Base64Url

/-- What can be wrong with a text. -/
inductive DecodeError where
  /-- No bytes have a text of this length. -/
  | length (n : Nat)
  /-- A byte that is no symbol, and its position. -/
  | symbol (byte : UInt8) (offset : Nat)
  /-- A last symbol with superfluous bits, and its position. -/
  | lastSymbol (byte : UInt8) (offset : Nat)
  /-- The last group is filled up. -/
  | padding
deriving Repr, DecidableEq

/-- The text of a fault. -/
def DecodeError.message : DecodeError → String
  | .length n => "Invalid input length: " ++ toString n
  | .symbol b i => "Invalid symbol " ++ toString b.toNat ++ ", offset " ++ toString i ++ "."
  | .lastSymbol b i =>
    "Invalid last symbol " ++ toString b.toNat ++ ", offset " ++ toString i ++ "."
  | .padding => "Invalid padding"

/-! ## Symbols -/

/-- The byte of an ASCII character. -/
def byte (c : Char) : UInt8 :=
  UInt8.ofNat c.toNat

/-- The symbol for a value below sixty-four. -/
def symbol (v : Nat) : UInt8 :=
  if v < 26 then UInt8.ofNat ('A'.toNat + v)
  else if v < 52 then UInt8.ofNat ('a'.toNat + (v - 26))
  else if v < 62 then UInt8.ofNat ('0'.toNat + (v - 52))
  else if v = 62 then byte '-'
  else byte '_'

/-- The value of a symbol. -/
def value? (b : UInt8) : Option Nat :=
  let n := b.toNat
  if 'A'.toNat ≤ n ∧ n ≤ 'Z'.toNat then some (n - 'A'.toNat)
  else if 'a'.toNat ≤ n ∧ n ≤ 'z'.toNat then some (n - 'a'.toNat + 26)
  else if '0'.toNat ≤ n ∧ n ≤ '9'.toNat then some (n - '0'.toNat + 52)
  else if b = byte '-' then some 62
  else if b = byte '_' then some 63
  else none

/-! ## Writing -/

/-- The symbols for a list of bytes. -/
def encode : List UInt8 → List UInt8
  | [] => []
  | [a] => [symbol (a.toNat / 4), symbol (a.toNat % 4 * 16)]
  | [a, b] =>
    [symbol (a.toNat / 4), symbol (a.toNat % 4 * 16 + b.toNat / 16), symbol (b.toNat % 16 * 4)]
  | a :: b :: c :: rest =>
    symbol (a.toNat / 4) :: symbol (a.toNat % 4 * 16 + b.toNat / 16) ::
      symbol (b.toNat % 16 * 4 + c.toNat / 64) :: symbol (c.toNat % 64) :: encode rest

/-! ## Reading -/

/-- The bytes of a list of values below sixty-four. -/
def join : List Nat → List UInt8
  | a :: b :: c :: d :: rest =>
    UInt8.ofNat (a * 4 + b / 16) :: UInt8.ofNat (b % 16 * 16 + c / 4) ::
      UInt8.ofNat (c % 4 * 64 + d) :: join rest
  | [a, b, c] => [UInt8.ofNat (a * 4 + b / 16), UInt8.ofNat (b % 16 * 16 + c / 4)]
  | [a, b] => [UInt8.ofNat (a * 4 + b / 16)]
  | _ => []

/-- The first byte that is no symbol, with its position counted from an offset. -/
def firstForeign? (offset : Nat) : List UInt8 → Option DecodeError
  | [] => none
  | b :: bs => if (value? b).isNone then some (.symbol b offset) else firstForeign? (offset + 1) bs

/-- What is wrong with the symbols of the last group, which begins at an offset.  A filling is in
its place when it comes third or fourth and nothing but filling follows it. -/
def foreignInGroup? (offset : Nat) : Nat → Option Nat → List UInt8 → Option DecodeError
  | _, _, [] => none
  | i, filling, b :: bs =>
    if b = byte '=' then
      if i < 2 then some (.symbol b (offset + i))
      else foreignInGroup? offset (i + 1) (filling.or (some i)) bs
    else
      match filling with
      | some j => some (.symbol (byte '=') (offset + j))
      | none =>
        if (value? b).isNone then some (.symbol b (offset + i))
        else foreignInGroup? offset (i + 1) none bs

/-- Whether the last of some values has bits that no byte needs. -/
def hasSuperfluousBits : List Nat → Bool
  | [_, b] => b % 16 != 0
  | [_, _, c] => c % 4 != 0
  | _ => false

/-- What is wrong with the last group, if its symbols are all in their place. -/
def faultOfGroup? (offset : Nat) (group : List UInt8) : Option DecodeError :=
  let values := group.filterMap value?
  if values.length < 2 then some (.length (offset + values.length))
  else if group.length ≠ values.length then some .padding
  else if hasSuperfluousBits values then
    group.getLast?.map fun b => .lastSymbol b (offset + group.length - 1)
  else none

/-- A foreign symbol that makes the text one byte too long. -/
def trailingForeign? (bs : List UInt8) : Option DecodeError :=
  if bs.length % 4 = 1 then
    match bs.getLast? with
    | some b => if b ≠ byte '=' ∧ (value? b).isNone then some (.symbol b (bs.length - 1)) else none
    | none => none
  else none

/-- What is wrong with a text, if anything is. -/
def fault? (bs : List UInt8) : Option DecodeError :=
  if bs.isEmpty then none
  else
    let start := (bs.length - 1) / 4 * 4
    let group := bs.drop start
    trailingForeign? bs |>.or (firstForeign? 0 (bs.take start))
      |>.or (foreignInGroup? start 0 none group) |>.or (faultOfGroup? start group)

/-- The bytes that a text stands for. -/
def decode (bs : List UInt8) : Except DecodeError (List UInt8) :=
  match fault? bs with
  | some e => .error e
  | none => .ok (join (bs.filterMap value?))

end Base64Url
end Text
end Gatehouse
