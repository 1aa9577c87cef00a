import Gatehouse.Text.Pieces

/-!
# Internet addresses of thirty-two bits

Written as four numbers below 256 with points between them.  Two notations are read.  The plain one
has exactly four decimal numbers without superfluous zeros.  The loose one, which URLs allow, has
one to four numbers, each decimal, octal after `0` or hexadecimal after `0x`, of which the last
fills all the bits that are left.
-/

set_option autoImplicit false

namespace Gatehouse
namespace Net

/-- An address of thirty-two bits. -/
structure Ipv4 where
  bits : UInt32
deriving Repr, DecidableEq

namespace Ipv4

/-- The four bytes of an address. -/
def octets (a : Ipv4) : List Nat :=
  let n := a.bits.toNat
  [n / 0x1000000, n / 0x10000 % 256, n / 256 % 256, n % 256]

/-- The address with four bytes. -/
def ofOctets (a b c d : Nat) : Ipv4 :=
  ⟨UInt32.ofNat (((a * 256 + b) * 256 + c) * 256 + d)⟩

/-- The text of an address. -/
def render (a : Ipv4) : String :=
  ".".intercalate (a.octets.map fun n => toString n)

/-- The value of a digit, whatever its base. -/
def digit? (base : Nat) (c : Char) : Option Nat :=
  let v :=
    if '0' ≤ c ∧ c ≤ '9' then c.toNat - '0'.toNat
    else if 'a' ≤ c ∧ c ≤ 'z' then c.toNat - 'a'.toNat + 10
    else if 'A' ≤ c ∧ c ≤ 'Z' then c.toNat - 'A'.toNat + 10
    else base
  if v < base then some v else none

/-- The value of some digits. -/
def number? (base : Nat) (cs : List Char) : Option Nat :=
  (cs.mapM (digit? base)).map fun ds => ds.foldl (fun n d => n * base + d) 0

/-! ## Plain notation -/

/-- A decimal number below 256 without superfluous zeros. -/
def octet? (cs : List Char) : Option Nat :=
  if cs.isEmpty || 3 < cs.length || (1 < cs.length && cs.head? == some '0') then none
  else (number? 10 cs).filter (· < 256)

/-- The address that a text spells in the plain notation. -/
def parse? (cs : List Char) : Option Ipv4 :=
  match (Text.pieces (· == '.') cs).mapM octet? with
  | some [a, b, c, d] => some (ofOctets a b c d)
  | _ => none

/-! ## Loose notation -/

/-- A number with its base written in front.  The base alone is zero. -/
def looseNumber? : List Char → Option Nat
  | [] => none
  | '0' :: 'x' :: rest => number? 16 rest
  | '0' :: 'X' :: rest => number? 16 rest
  | ['0'] => some 0
  | '0' :: rest => number? 8 rest
  | cs => number? 10 cs

/-- The pieces of a text, without an empty one at the end. -/
def trimmedPieces (cs : List Char) : List (List Char) :=
  let ps := Text.pieces (· == '.') cs
  if ps.getLast? = some [] then ps.dropLast else ps

/-- Whether the last piece of a text is a number, so that the text must be an address. -/
def endsInNumber (cs : List Char) : Bool :=
  match (trimmedPieces cs).getLast? with
  | some last =>
    (!last.isEmpty && last.all fun c => '0' ≤ c && c ≤ '9') || (looseNumber? last).isSome
  | none => false

/-- The address of a list of numbers: all but the last are bytes, and the last fills the rest. -/
def ofNumbers? (ns : List Nat) : Option Ipv4 :=
  match ns.getLast? with
  | none => none
  | some last =>
    let front := ns.dropLast
    let room := Nat.pow 256 (4 - front.length)
    if ns.length ≤ 4 ∧ front.all (· < 256) ∧ last < room then
      some ⟨UInt32.ofNat (front.foldl (fun n b => n * 256 + b) 0 * room + last)⟩
    else none

/-- The address that a text spells in the loose notation. -/
def parseLoose? (cs : List Char) : Option Ipv4 :=
  ((trimmedPieces cs).mapM looseNumber?).bind ofNumbers?

end Ipv4
end Net
end Gatehouse
