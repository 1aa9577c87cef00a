import Gatehouse.Text.Blank

/-!
# Request identifiers

Every request carries an identifier of 128 bits, so that a line in a log, a header of a response and
the body of an error can be told to belong together.  It is written as thirty-two hexadecimal digits
in five groups.  A caller may bring an identifier along; `RequestId.parse?` accepts four spellings
of it: the digits alone, the digits in groups, the groups in braces, and the groups after
`urn:uuid:`, each in any case and with blanks around it.
-/

set_option autoImplicit false

namespace Gatehouse

/-- The identifier of a request. -/
structure RequestId where
  value : BitVec 128
deriving Repr, DecidableEq

namespace RequestId

/-- How many digits stand in each group. -/
def groups : List Nat := [8, 4, 4, 4, 12]

/-- The value of a hexadecimal digit. -/
def digit? (c : Char) : Option Nat :=
  if '0' ≤ c ∧ c ≤ '9' then some (c.toNat - '0'.toNat)
  else if 'a' ≤ c ∧ c ≤ 'f' then some (c.toNat - 'a'.toNat + 10)
  else if 'A' ≤ c ∧ c ≤ 'F' then some (c.toNat - 'A'.toNat + 10)
  else none

/-- The identifier of thirty-two digits. -/
def ofDigits? (cs : List Char) : Option RequestId :=
  if cs.length = 32 then
    (cs.mapM digit?).map fun ds => ⟨BitVec.ofNat 128 (ds.foldl (fun n d => n * 16 + d) 0)⟩
  else none

/-- The digits of a text in groups, if the hyphens stand where they should and nowhere else. -/
def ungroup? : List Nat → List Char → Option (List Char)
  | [], [] => some []
  | [], _ :: _ => none
  | [size], cs => if cs.length = size ∧ !cs.contains '-' then some cs else none
  | size :: sizes, cs =>
    let group := cs.take size
    match cs.drop size with
    | '-' :: rest =>
      if group.contains '-' then none else (ungroup? sizes rest).map (group ++ ·)
    | _ => none

/-- The identifier of a text in groups. -/
def ofGroups? (cs : List Char) : Option RequestId :=
  (ungroup? groups cs).bind ofDigits?

/-- The text between braces. -/
def unbrace? : List Char → Option (List Char)
  | '\x7b' :: rest =>
    match rest.reverse with
    | '\x7d' :: inner => some inner.reverse
    | _ => none
  | _ => none

/-- The text after `urn:uuid:`, in any case. -/
def unurn? (cs : List Char) : Option (List Char) :=
  if (cs.take 9).map Char.toLower = "urn:uuid:".toList then some (cs.drop 9) else none

/-- The identifier that a text spells. -/
def parse? (s : String) : Option RequestId :=
  let cs := Text.trim s.toList
  if cs.length = 32 then ofDigits? cs
  else if cs.length = 36 then ofGroups? cs
  else if cs.length = 38 then (unbrace? cs).bind ofGroups?
  else if cs.length = 45 then (unurn? cs).bind ofGroups?
  else none

/-- The digits of an identifier, most significant first. -/
def digits (id : RequestId) : List Char :=
  let ds := Nat.toDigits 16 id.value.toNat
  List.replicate (32 - ds.length) '0' ++ ds

/-- Digits in groups of the given sizes. -/
def group : List Nat → List Char → List Char
  | [], _ => []
  | [size], cs => cs.take size
  | size :: sizes, cs => cs.take size ++ '-' :: group sizes (cs.drop size)

/-- The text of an identifier. -/
def render (id : RequestId) : String :=
  String.ofList (group groups id.digits)

/-- The four bits that say how an identifier was made. -/
def version (id : RequestId) : Nat :=
  (id.value.toNat >>> 76) % 16

end RequestId
end Gatehouse
