import Gatehouse.Text.Utf8

/-!
# Header fields

The header fields of a request or a response, in the order in which they were added.  Names are kept
in small letters and values as bytes.  A name may have several values; `append` adds one, and
`insert` puts one in place of all there were.

* `Headers.name?` and `Headers.value?` — which texts are names and values.
* `Headers.get?` — the first value under a name; `getAll` — all of them.
* `getAll_insert_self`, `getAll_insert_of_ne` — after an insertion the name has that value alone,
  and every other name has the values it had.
-/

set_option autoImplicit false

namespace Gatehouse

namespace Http

/-- The characters of which header names and methods are made. -/
def isTokenChar (c : Char) : Bool :=
  c.isAlphanum || "!#$%&'*+-.^_|~".toList.contains c || c == '\x60'

/-- Whether a text is a token: at least one character, and only those of a token. -/
def isToken (s : String) : Bool :=
  !s.isEmpty && s.toList.all isTokenChar

/-- What can be wrong with a header field. -/
inductive HeaderError where
  | name
  | value
deriving Repr, DecidableEq

/-- The text of the fault. -/
def HeaderError.message : HeaderError → String
  | .name => "invalid HTTP header name"
  | .value => "failed to parse header value"

end Http

open Http

/-- One header field. -/
structure Header where
  name : String
  value : List UInt8
deriving Repr, DecidableEq

/-- Header fields in the order in which they were added. -/
structure Headers where
  fields : List Header := []
deriving Repr, DecidableEq

namespace Headers

/-- The longest name that a header field can have. -/
def maxNameLength : Nat := 65535

/-- A header name in small letters, if the text is one. -/
def name? (s : String) : Option String :=
  if isToken s && s.length ≤ maxNameLength then some (String.ofList (s.toList.map Char.toLower))
  else none

/-- Whether a byte may stand in a header value. -/
def isValueByte (b : UInt8) : Bool :=
  b == 0x09 || (0x20 ≤ b && b != 0x7F)

/-- The bytes of a header value, if they may be one. -/
def value? (bs : List UInt8) : Option (List UInt8) :=
  if bs.all isValueByte then some bs else none

/-- Whether a byte of a header value can be read as a character. -/
def isVisible (b : UInt8) : Bool :=
  b == 0x09 || (0x20 ≤ b && b ≤ 0x7E)

/-- The text of a header value, if all of it can be read. -/
def visible? (bs : List UInt8) : Option String :=
  if bs.all isVisible then some (String.ofList (bs.map fun b => Char.ofNat b.toNat)) else none

/-- No fields. -/
def empty : Headers := {}

/-- The fields after one more. -/
def append (h : Headers) (name : String) (value : List UInt8) : Headers :=
  ⟨h.fields ++ [⟨name, value⟩]⟩

/-- The fields without those of a name. -/
def remove (h : Headers) (name : String) : Headers :=
  ⟨h.fields.filter fun f => f.name != name⟩

/-- The fields with one value under a name, in place of all there were. -/
def insert (h : Headers) (name : String) (value : List UInt8) : Headers :=
  (h.remove name).append name value

/-- The fields without those of several names. -/
def without (h : Headers) (names : List String) : Headers :=
  ⟨h.fields.filter fun f => !names.contains f.name⟩

/-- All values under a name. -/
def getAll (h : Headers) (name : String) : List (List UInt8) :=
  h.fields.filterMap fun f => if f.name = name then some f.value else none

/-- The first value under a name. -/
def get? (h : Headers) (name : String) : Option (List UInt8) :=
  (h.getAll name).head?

/-- Whether a name has a value. -/
def contains (h : Headers) (name : String) : Bool :=
  h.fields.any fun f => f.name == name

/-- The fields with others in place of all that have the same names. -/
def replacedBy (h other : Headers) : Headers :=
  ⟨h.fields.filter (fun f => !other.contains f.name) ++ other.fields⟩

/-- The fields after one more, given as texts. -/
def appendText (h : Headers) (name value : String) : Except HeaderError Headers :=
  match name? name with
  | none => .error .name
  | some n =>
    match value? (Text.bytes value) with
    | none => .error .value
    | some v => .ok (h.append n v)

/-- The fields after more of them, given as texts; the first fault counts. -/
def ofTexts (pairs : List (String × String)) : Except HeaderError Headers :=
  pairs.foldlM (fun h p => h.appendText p.1 p.2) empty

/-! ## Small facts -/

@[simp] theorem getAll_append_self (h : Headers) (name : String) (value : List UInt8) :
    (h.append name value).getAll name = h.getAll name ++ [value] := by
  simp [append, getAll]

@[simp] theorem getAll_remove_self (h : Headers) (name : String) :
    (h.remove name).getAll name = [] := by
  simp only [remove, getAll, List.filterMap_eq_nil_iff, List.mem_filter]
  intro f hf
  simp only [bne_iff_ne, ne_eq] at hf
  simp [hf.2]

@[simp] theorem getAll_insert_self (h : Headers) (name : String) (value : List UInt8) :
    (h.insert name value).getAll name = [value] := by
  simp [insert]

theorem getAll_append_of_ne (h : Headers) {name other : String} (hne : name ≠ other)
    (value : List UInt8) : (h.append name value).getAll other = h.getAll other := by
  simp [append, getAll, hne]

theorem getAll_remove_of_ne (h : Headers) {name other : String} (hne : name ≠ other) :
    (h.remove name).getAll other = h.getAll other := by
  simp only [remove, getAll, List.filterMap_filter]
  congr 1
  funext f
  by_cases hf : f.name = other
  · simp [hf, Ne.symm hne]
  · simp [hf]

theorem getAll_insert_of_ne (h : Headers) {name other : String} (hne : name ≠ other)
    (value : List UInt8) : (h.insert name value).getAll other = h.getAll other := by
  rw [insert, getAll_append_of_ne _ hne, getAll_remove_of_ne _ hne]

theorem contains_iff (h : Headers) (name : String) :
    h.contains name = true ↔ h.getAll name ≠ [] := by
  simp [contains, getAll, List.filterMap_eq_nil_iff]

end Headers
end Gatehouse
