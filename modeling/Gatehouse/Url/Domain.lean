import Gatehouse.Text.Case
import Gatehouse.Text.Printable
import Gatehouse.Url.Basic
import Gatehouse.Url.Percent
import Gatehouse.Url.Punycode

/-!
# Domain names

A domain name may be given in any letters, and is kept in ASCII.  Each of its labels is brought to
small letters and a common form; a label that still has other characters is written in Punycode
behind the mark `xn--`.  A label that bears the mark already has to be in Punycode, and what it
stands for has to be in the common form.

Not every character can stand in a name: `isForbidden` lists the ASCII characters that cannot, and
of the others those cannot that nobody can see.
-/

set_option autoImplicit false

namespace Gatehouse
namespace Url
namespace Domain

/-- Whether an ASCII character cannot stand in a domain name. -/
def isForbidden (c : Char) : Bool :=
  c.toNat ≤ 0x20 || c.toNat == 0x7F || "%#/:<>?@[\\]^|".toList.contains c

/-- Whether a character is left out of a name: it only says how its neighbours are to be shown. -/
def isIgnored (c : Char) : Bool :=
  let n := c.toNat
  n == 0xAD || n == 0x200B || n == 0x2060 || n == 0x2064 || n == 0xFEFF || n == 0x34F ||
    (0x180B ≤ n && n ≤ 0x180D) || (0xFE00 ≤ n && n ≤ 0xFE0F) || (0xE0100 ≤ n && n ≤ 0xE01EF)

/-- A character that is written as wide as an ideograph, in its common form; and any other character
as it is. -/
def narrow (c : Char) : Char :=
  let n := c.toNat
  if n == 0x3002 || n == 0xFF61 then '.'
  else if n == 0x3000 then ' '
  else if 0xFF01 ≤ n && n ≤ 0xFF5E then Char.ofNat (n - 0xFEE0)
  else c

/-- The common form of a name. -/
def fold (cs : List Char) : List Char :=
  (cs.filter fun c => !isIgnored c).flatMap fun c =>
    Text.Case.mapped Text.Case.lowerLong Text.Case.lowerRuns (narrow c)

/-- Whether a character in common form can stand in a name. -/
def isAllowed (c : Char) : Bool :=
  if c.toNat < 0x80 then !isForbidden c
  else c != '\uFFFD' && !(Text.unprintableRanges.any fun r => r.1 ≤ c.toNat && c.toNat ≤ r.2)

/-- Whether a character only adds to the one in front of it. -/
def isCombining (c : Char) : Bool :=
  Text.extendRanges.any fun r => r.1 ≤ c.toNat && c.toNat ≤ r.2

/-- Whether a label in common form is a good one. -/
def isLabel (cs : List Char) : Bool :=
  cs.all isAllowed && !(cs.head?.map isCombining).getD false

/-- The characters of ASCII. -/
def isAscii (cs : List Char) : Bool :=
  cs.all fun c => c.toNat < 0x80

/-- The mark of a label in Punycode. -/
def mark : List Char := "xn--".toList

/-- What follows the mark of a label, if it bears one. -/
def afterMark? (cs : List Char) : Option (List Char) :=
  if mark.isPrefixOf cs then some (cs.drop mark.length) else none

/-- A label in common form as it is written in ASCII. -/
def labelToAscii? (cs : List Char) : Option (List Char) :=
  match afterMark? cs with
  | some digits =>
    match Punycode.decode? digits with
    | some label =>
      if !isAscii label && isLabel label && fold label == label then some cs else none
    | none => none
  | none =>
    if !isLabel cs then none
    else if isAscii cs then some cs
    else some (mark ++ Punycode.encode cs)

/-- A domain name in ASCII. -/
def toAscii? (cs : List Char) : Option (List Char) :=
  ((Text.pieces (· == '.') (fold cs)).mapM labelToAscii?).map fun ls => ['.'].intercalate ls

end Domain

/-! ## Hosts -/

namespace Host

/-- An address of 128 bits in brackets, from what follows the opening one. -/
def bracketed (cs : List Char) : Except UrlError Host :=
  match cs.getLast? with
  | some ']' =>
    match Net.Ipv6.parse? cs.dropLast with
    | some a => .ok (.v6 a)
    | none => .error .v6
  | _ => .error .v6

/-- The host of a URL whose scheme is special. -/
def ofSpecial (cs : List Char) : Except UrlError Host :=
  match cs with
  | '[' :: rest => bracketed rest
  | cs =>
    match (Text.Utf8.decode? (Percent.decode (Text.bytes (String.ofList cs)))).bind
      fun s => Domain.toAscii? s.toList with
    | none => .error .domain
    | some [] => .error .emptyHost
    | some ascii =>
      if Net.Ipv4.endsInNumber ascii then
        match Net.Ipv4.parseLoose? ascii with
        | some a => .ok (.v4 a)
        | none => .error .v4
      else .ok (.name (String.ofList ascii))

/-- Whether a character cannot stand in the host of a URL whose scheme is not special. -/
def isForbidden (c : Char) : Bool :=
  "\x00\t\n\r #/:<>?@[\\]^|".toList.contains c

/-- The host of a URL whose scheme is not special. -/
def ofOther (cs : List Char) : Except UrlError Host :=
  match cs with
  | '[' :: rest => bracketed rest
  | cs =>
    if cs.any isForbidden then .error .character
    else .ok (.name (String.ofList (Percent.encode Percent.isControl cs)))

end Host
end Url
end Gatehouse
