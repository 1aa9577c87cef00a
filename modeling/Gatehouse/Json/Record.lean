import Gatehouse.Json.Basic
import Gatehouse.Vocabulary

/-!
# Reading records

Facts about operators, session claims and sections of a configuration are *records*: a fixed list of
named fields.  A record may be written in two ways, as an object with its names as keys or as an
array of its values in order, and the same rules hold for every record type:

* a field may have several names, but may be given only once, whichever of them is used;
* an object may hold other keys too, unless the record is *closed*;
* a field that is left out of an object can still have a value (`Slots.optional?`,
  `Slots.withDefault?`), and so can trailing fields left out of an array, but an optional field that
  has no default must have its place in an array.

The same trees are read from JSON texts and from TOML documents.  The two differ in two places,
which `Source` names: what stands beside a word that is written as a one-key table, and whether an
array may go on after the last field.
-/

set_option autoImplicit false

namespace Gatehouse
namespace Json

/-- Where a tree was read from. -/
inductive Source where
  | json
  | toml
deriving Repr, DecidableEq

/-- Whether a value may stand beside the only key of a table that spells a word. -/
def Source.isUnit : Source → Json → Bool
  | .json, .null => true
  | .toml, .object [] => true
  | .toml, .array [] => true
  | _, _ => false

/-- The text of a string. -/
def text? : Json → Option String
  | .string t => t
  | _ => none

/-- The value of a word: a string, or a table with the word as its only key. -/
def word? (source : Source) : Json → Option String
  | .string t => t
  | .object [(key, v)] => if source.isUnit v then key else none
  | _ => none

/-- A value of a vocabulary. -/
def vocabulary? {α : Type} [Vocabulary α] (source : Source) (v : Json) : Option α :=
  (word? source v).bind Vocabulary.ofWord?

/-- A truth value. -/
def bool? : Json → Option Bool
  | .bool b => some b
  | _ => none

/-- The largest number that fits in 64 bits. -/
def maxWord : Nat := 0xFFFFFFFFFFFFFFFF

/-- A non-negative integer of at most 64 bits. -/
def word64? : Json → Option Nat
  | .number (.natural n) => if n ≤ maxWord then some n else none
  | _ => none

/-- A list of texts. -/
def texts? : Json → Option (List String)
  | .array es => es.mapM text?
  | _ => none

/-- A value, or nothing for `null`. -/
def nullable? {α : Type} (read : Json → Option α) : Json → Option (Option α)
  | .null => some none
  | v => (read v).map some

/-! ## Fields -/

/-- The fields of a record: the names of each, and whether other keys are refused. -/
structure Layout where
  names : List (List String)
  closed : Bool := false

/-- The values of a record's fields, in order, with `none` where the record has no value. -/
structure Slots where
  values : List (Option Json)
  /-- Whether the record was written as an array. -/
  positional : Bool

/-- The values under any of a field's names. -/
def valuesUnder (names : List String) (members : List (Option String × Json)) : List Json :=
  members.filterMap fun m =>
    match m.1 with
    | some key => if names.contains key then some m.2 else none
    | none => none

/-- The value of a field, unless it is given twice. -/
def slot? (members : List (Option String × Json)) (names : List String) : Option (Option Json) :=
  match valuesUnder names members with
  | [] => some none
  | [v] => some (some v)
  | _ => none

/-- Whether a key may stand in the record. -/
def Layout.admits (layout : Layout) (key : Option String) : Bool :=
  match key with
  | none => false
  | some k => !layout.closed || layout.names.any (·.contains k)

/-- The fields of a value read as a record. -/
def slots? (source : Source) (layout : Layout) : Json → Option Slots
  | .object members =>
    if members.all fun m => layout.admits m.1 then
      (layout.names.mapM (slot? members)).map fun values => ⟨values, false⟩
    else none
  | .array elements =>
    let count := layout.names.length
    if elements.length ≤ count ∨ source = .toml then
      some ⟨(elements.map some ++ List.replicate count none).take count, true⟩
    else none
  | _ => none

/-- A field that must be given. -/
def Slots.required? {α : Type} (slots : Slots) (i : Nat) (read : Json → Option α) : Option α :=
  match slots.values[i]? with
  | some (some v) => read v
  | _ => none

/-- A field that may be left out of an object. -/
def Slots.optional? {α : Type} (slots : Slots) (i : Nat) (read : Json → Option α) :
    Option (Option α) :=
  match slots.values[i]? with
  | some (some v) => nullable? read v
  | _ => if slots.positional then none else some none

/-- A field that has a default. -/
def Slots.withDefault? {α : Type} (slots : Slots) (i : Nat) (default : α)
    (read : Json → Option α) : Option α :=
  match slots.values[i]? with
  | some (some v) => read v
  | _ => some default

end Json
end Gatehouse
