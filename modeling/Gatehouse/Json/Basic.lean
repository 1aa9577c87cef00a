/-!
# JSON values

The tree that a JSON text denotes.  Objects keep their members in the order of the text, repeated
keys included, because whether a repeated key is an error depends on what the object is read *as*.

A text may hold strings that have no characters to give: a `\u` escape can name half of a surrogate
pair, and a body of bytes can be ill-formed inside its quotes.  Such a string may be skipped over,
but never read.  It is kept in the tree as `none`, both as a value and as a key, so that the
decision is left to whoever reads the value.

Numbers are exact.  An integer is kept as its magnitude; anything written with a fraction or an
exponent, and the negative zero, is kept as its spelling, since nothing here computes with it.
-/

set_option autoImplicit false

namespace Gatehouse

/-- A JSON number. -/
inductive Json.Number where
  /-- A non-negative integer. -/
  | natural (n : Nat)
  /-- The integer `-n`, with `n` above zero. -/
  | negative (n : Nat)
  /-- A number spelled with a fraction or an exponent, or `-0`. -/
  | fractional (spelling : String)
deriving Repr, DecidableEq

/-- A JSON value. -/
inductive Json where
  | null
  | bool (b : Bool)
  | number (n : Json.Number)
  | string (text : Option String)
  | array (elements : List Json)
  | object (members : List (Option String × Json))
deriving Repr

namespace Json

/-- A string that has a text. -/
def str (s : String) : Json := .string (some s)

/-- A non-negative integer. -/
def nat (n : Nat) : Json := .number (.natural n)

/-- An object whose keys all have a text. -/
def obj (members : List (String × Json)) : Json :=
  .object (members.map fun m => (some m.1, m.2))

/-- A value that may be missing, with `null` for nothing. -/
def ofOption {α : Type} (f : α → Json) : Option α → Json
  | none => .null
  | some a => f a

/-- The members of an object under a key, in order. -/
def members (key : String) : Json → List Json
  | .object ms => ms.filterMap fun m => if m.1 = some key then some m.2 else none
  | _ => []

mutual

/-- How deeply arrays and objects are nested. -/
def depth : Json → Nat
  | .array es => depthOfElements es + 1
  | .object ms => depthOfMembers ms + 1
  | _ => 0

/-- The greatest depth of the elements of an array. -/
def depthOfElements : List Json → Nat
  | [] => 0
  | e :: es => max (depth e) (depthOfElements es)

/-- The greatest depth of the values of an object. -/
def depthOfMembers : List (Option String × Json) → Nat
  | [] => 0
  | m :: ms => max (depth m.2) (depthOfMembers ms)

end

mutual

/-- Whether every string and key in the value has a text. -/
def hasTexts : Json → Bool
  | .string t => t.isSome
  | .array es => elementsHaveTexts es
  | .object ms => membersHaveTexts ms
  | _ => true

/-- `hasTexts` for each element of an array. -/
def elementsHaveTexts : List Json → Bool
  | [] => true
  | e :: es => hasTexts e && elementsHaveTexts es

/-- `hasTexts` for each key and value of an object. -/
def membersHaveTexts : List (Option String × Json) → Bool
  | [] => true
  | m :: ms => m.1.isSome && hasTexts m.2 && membersHaveTexts ms

end

end Json
end Gatehouse
