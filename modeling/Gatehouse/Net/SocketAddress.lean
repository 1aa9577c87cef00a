import Gatehouse.Net.Ipv6

/-!
# Socket addresses

Where a server listens: an address and a port.  An address of 128 bits stands in brackets, and may
name one of the machine's networks by its number after a percent sign.
-/

set_option autoImplicit false

namespace Gatehouse
namespace Net

/-- An address with a port. -/
inductive SocketAddress where
  | v4 (address : Ipv4) (port : UInt16)
  /-- The scope is the number of a network; zero stands for none. -/
  | v6 (address : Ipv6) (scope : UInt32) (port : UInt16)
deriving Repr, DecidableEq

namespace SocketAddress

/-- The value of a non-empty list of decimal digits, if it does not exceed a greatest value. -/
def decimal? (greatest : Nat) (cs : List Char) : Option Nat :=
  if cs.isEmpty then none else (Ipv4.number? 10 cs).filter (· ≤ greatest)

/-- The port of a text. -/
def port? (cs : List Char) : Option UInt16 :=
  (decimal? 65535 cs).map UInt16.ofNat

/-- An address of 128 bits with the number of a network. -/
def scoped? (cs : List Char) : Option (Ipv6 × UInt32) :=
  match Text.cut? (· == '%') cs with
  | none => (Ipv6.parse? cs).map fun a => (a, 0)
  | some (a, scope) => do
    let address ← Ipv6.parse? a
    let n ← decimal? 0xFFFFFFFF scope
    return (address, UInt32.ofNat n)

/-- The socket address that a text spells. -/
def parse? (s : String) : Option SocketAddress :=
  match s.toList with
  | '[' :: rest => do
    let (inner, rest) ← Text.cut? (· == ']') rest
    let (address, scope) ← scoped? inner
    match rest with
    | ':' :: port => return .v6 address scope (← port? port)
    | _ => none
  | cs => do
    let (address, port) ← Text.cut? (· == ':') cs
    return .v4 (← Ipv4.parse? address) (← port? port)

/-- The text of a socket address. -/
def render : SocketAddress → String
  | .v4 a p => a.render ++ ":" ++ toString p.toNat
  | .v6 a scope p =>
    let shown := if scope = 0 then "" else "%" ++ toString scope.toNat
    "[" ++ a.renderMapped ++ shown ++ "]:" ++ toString p.toNat

end SocketAddress
end Net
end Gatehouse
