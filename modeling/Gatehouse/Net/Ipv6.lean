import Gatehouse.Net.Ipv4

/-!
# Internet addresses of 128 bits

Written as eight numbers of sixteen bits in hexadecimal, with colons between them.  One run of zeros
can be left out, which leaves two colons side by side, and the last two numbers can be written as an
address of thirty-two bits.

The shortest text leaves out the longest run of zeros, and the first of several that are equally
long, unless it is a single zero.
-/

set_option autoImplicit false

namespace Gatehouse
namespace Net

/-- An address of 128 bits, as eight numbers of sixteen bits. -/
structure Ipv6 where
  pieces : Vector UInt16 8
deriving Repr, DecidableEq

namespace Ipv6

/-! ## Reading -/

/-- A number of one to four hexadecimal digits. -/
def piece? (cs : List Char) : Option UInt16 :=
  if cs.isEmpty || 4 < cs.length then none else (Ipv4.number? 16 cs).map UInt16.ofNat

/-- The two numbers of an address of thirty-two bits. -/
def piecesOfIpv4 (a : Ipv4) : List UInt16 :=
  [UInt16.ofNat (a.bits.toNat / 0x10000), UInt16.ofNat (a.bits.toNat % 0x10000)]

/-- The numbers of some pieces, the last of which may be an address of thirty-two bits. -/
def numbers? : List (List Char) → Option (List UInt16)
  | [] => some []
  | [last] =>
    if last.contains '.' then (Ipv4.parse? last).map piecesOfIpv4
    else (piece? last).map fun n => [n]
  | p :: ps => do
    let n ← piece? p
    let ns ← numbers? ps
    return n :: ns

/-- The numbers of a text, where an empty text has none. -/
def side? (cs : List Char) : Option (List UInt16) :=
  if cs.isEmpty then some [] else numbers? (Text.pieces (· == ':') cs)

/-- What stands in front of the first two colons side by side, and what stands behind them. -/
def cutAtGap : List Char → Option (List Char × List Char)
  | ':' :: ':' :: rest => some ([], rest)
  | c :: cs => (cutAtGap cs).map fun p => (c :: p.1, p.2)
  | [] => none

/-- The address of eight numbers. -/
def ofList? (ns : List UInt16) : Option Ipv6 :=
  if h : ns.toArray.size = 8 then some ⟨⟨ns.toArray, h⟩⟩ else none

/-- The address that a text spells. -/
def parse? (cs : List Char) : Option Ipv6 :=
  match cutAtGap cs with
  | none => (numbers? (Text.pieces (· == ':') cs)).bind ofList?
  | some (left, right) =>
    if left.contains '.' then none
    else
      match side? left, side? right with
      | some l, some r =>
        if l.length + r.length < 8 then
          ofList? (l ++ List.replicate (8 - l.length - r.length) 0 ++ r)
        else none
      | _, _ => none

/-! ## Writing -/

/-- How many zeros a list of numbers starts with. -/
def leadingZeros (ns : List UInt16) : Nat :=
  (ns.takeWhile (· == 0)).length

/-- The position and the length of the longest run of zeros; of several the first. -/
def longestRun : Nat → List UInt16 → Nat × Nat
  | i, [] => (i, 0)
  | i, n :: ns =>
    let here := leadingZeros (n :: ns)
    let later := longestRun (i + 1) ns
    if later.2 ≤ here then (i, here) else later

/-- Numbers in hexadecimal with colons between them. -/
def hexadecimal (ns : List UInt16) : String :=
  ":".intercalate (ns.map fun n => String.ofList (Nat.toDigits 16 n.toNat))

/-- The shortest text of an address. -/
def render (a : Ipv6) : String :=
  let ns := a.pieces.toList
  let (i, n) := longestRun 0 ns
  if n ≤ 1 then hexadecimal ns
  else hexadecimal (ns.take i) ++ "::" ++ hexadecimal (ns.drop (i + n))

/-- The text of an address in which an address of thirty-two bits is shown as such. -/
def renderMapped (a : Ipv6) : String :=
  match a.pieces.toList with
  | [0, 0, 0, 0, 0, 0xFFFF, hi, lo] =>
    "::ffff:" ++ (Ipv4.mk (UInt32.ofNat (hi.toNat * 0x10000 + lo.toNat))).render
  | _ => a.render

end Ipv6
end Net
end Gatehouse
