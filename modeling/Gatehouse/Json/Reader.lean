import Gatehouse.Json.Basic
import Gatehouse.Text.Utf8

/-!
# Reading JSON texts

`Json.parse` reads a text that is one JSON value with blanks around it and nothing else; there is no
byte-order mark and no comment.  `Json.parseBytes` reads a body of bytes by the same rule: bytes
that are not UTF-8 can only stand inside a string, and leave that string without a text.

The reader works on *symbols*: a symbol is a character, or `none` for an ill-formed part of the
input.  A string is read in two steps.  `scanString` finds its closing quote and turns every escape
into a *piece*; `assemble` then joins the halves of surrogate pairs, and gives up on the text (not
on the reading) if a half is left alone.

Values nest, so `readValue` takes an amount of fuel.  Every nested value consumes a symbol, so the
length of the input is always enough, and `parse` supplies it.
-/

set_option autoImplicit false

namespace Gatehouse
namespace Json

/-- A character of the input, or `none` for an ill-formed part. -/
abbrev Symbol := Option Char

/-- The four characters that may stand between tokens. -/
def isGap (s : Symbol) : Bool :=
  s == some ' ' || s == some '\n' || s == some '\t' || s == some '\r'

/-- The input without the blanks it starts with. -/
def skipGap (cs : List Symbol) : List Symbol :=
  cs.dropWhile isGap

/-! ## Strings -/

/-- What a string is made of before the halves of surrogate pairs are joined. -/
inductive Piece where
  | char (c : Char)
  /-- A 16-bit unit from `0xD800` to `0xDFFF`. -/
  | half (unit : Nat)
  /-- An ill-formed part of the input. -/
  | broken
deriving Repr, DecidableEq

/-- The value of a hexadecimal digit. -/
def hexDigit? (c : Char) : Option Nat :=
  if '0' ≤ c ∧ c ≤ '9' then some (c.toNat - '0'.toNat)
  else if 'a' ≤ c ∧ c ≤ 'f' then some (c.toNat - 'a'.toNat + 10)
  else if 'A' ≤ c ∧ c ≤ 'F' then some (c.toNat - 'A'.toNat + 10)
  else none

/-- The 16-bit unit of four hexadecimal digits. -/
def unit? (a b c d : Symbol) : Option Nat := do
  let a ← hexDigit? (← a)
  let b ← hexDigit? (← b)
  let c ← hexDigit? (← c)
  let d ← hexDigit? (← d)
  return ((a * 16 + b) * 16 + c) * 16 + d

/-- The piece that a 16-bit unit stands for. -/
def pieceOfUnit (u : Nat) : Piece :=
  if 0xD800 ≤ u ∧ u ≤ 0xDFFF then .half u else .char (Char.ofNat u)

/-- The character that a one-letter escape stands for. -/
def escape? : Char → Option Char
  | '"' => some '"'
  | '\\' => some '\\'
  | '/' => some '/'
  | 'b' => some '\x08'
  | 'f' => some '\x0C'
  | 'n' => some '\n'
  | 'r' => some '\r'
  | 't' => some '\t'
  | _ => none

/-- The pieces of a string up to its closing quote, and what follows the quote. -/
def scanString : List Symbol → Option (List Piece × List Symbol)
  | [] => none
  | none :: rest => (scanString rest).map fun r => (.broken :: r.1, r.2)
  | some '"' :: rest => some ([], rest)
  | some '\\' :: some 'u' :: a :: b :: c :: d :: rest =>
    match unit? a b c d with
    | none => none
    | some u => (scanString rest).map fun r => (pieceOfUnit u :: r.1, r.2)
  | some '\\' :: some e :: rest =>
    match escape? e with
    | none => none
    | some ch => (scanString rest).map fun r => (.char ch :: r.1, r.2)
  | some c :: rest =>
    if c.toNat < 0x20 ∨ c = '\\' then none
    else (scanString rest).map fun r => (.char c :: r.1, r.2)

/-- The characters of a string, if every surrogate half is followed by its partner. -/
def assemble : List Piece → Option (List Char)
  | [] => some []
  | .char c :: rest => (assemble rest).map (c :: ·)
  | .half hi :: .half lo :: rest =>
    if hi < 0xDC00 ∧ 0xDC00 ≤ lo then
      (assemble rest).map (Char.ofNat (0x10000 + (hi - 0xD800) * 0x400 + (lo - 0xDC00)) :: ·)
    else none
  | _ => none

/-- A string, after its opening quote: its text, if it has one, and what follows. -/
def readString (cs : List Symbol) : Option (Option String × List Symbol) :=
  (scanString cs).map fun r => ((assemble r.1).map String.ofList, r.2)

/-! ## Numbers -/

/-- Whether a symbol is a decimal digit. -/
def isDigit : Symbol → Bool
  | some c => '0' ≤ c && c ≤ '9'
  | none => false

/-- The characters among some symbols. -/
def chars (cs : List Symbol) : List Char :=
  cs.filterMap id

/-- The digits that the input starts with, and the rest. -/
def spanDigits (cs : List Symbol) : List Char × List Symbol :=
  (chars (cs.takeWhile isDigit), cs.dropWhile isDigit)

/-- The value of a list of decimal digits. -/
def natOfDigits (ds : List Char) : Nat :=
  ds.foldl (fun n d => n * 10 + (d.toNat - '0'.toNat)) 0

/-- A fraction, if the input starts with one: a point and at least one digit. -/
def readFraction : List Symbol → Option (List Char × List Symbol)
  | some '.' :: rest =>
    let (ds, rest) := spanDigits rest
    if ds.isEmpty then none else some ('.' :: ds, rest)
  | cs => some ([], cs)

/-- The digits of an exponent, of which there is at least one. -/
def readExponentDigits (sign : List Char) (cs : List Symbol) : Option (List Char × List Symbol) :=
  let (ds, rest) := spanDigits cs
  if ds.isEmpty then none else some ('e' :: sign ++ ds, rest)

/-- An exponent, if the input starts with one. -/
def readExponent : List Symbol → Option (List Char × List Symbol)
  | some 'e' :: some '+' :: rest | some 'E' :: some '+' :: rest => readExponentDigits ['+'] rest
  | some 'e' :: some '-' :: rest | some 'E' :: some '-' :: rest => readExponentDigits ['-'] rest
  | some 'e' :: rest | some 'E' :: rest => readExponentDigits [] rest
  | cs => some ([], cs)

/-- A number after its sign.  A number has no leading zeros. -/
def readNumber (isNegative : Bool) (cs : List Symbol) : Option (Number × List Symbol) := do
  let (whole, rest) := spanDigits cs
  if whole.isEmpty || (whole.head? == some '0' && 1 < whole.length) then none
  let (fraction, rest) ← readFraction rest
  let (exponent, rest) ← readExponent rest
  let n := natOfDigits whole
  let spelling := (if isNegative then ['-'] else []) ++ whole ++ fraction ++ exponent
  if fraction.isEmpty && exponent.isEmpty && !(isNegative && n == 0) then
    return (if isNegative then .negative n else .natural n, rest)
  return (.fractional (String.ofList spelling), rest)

/-! ## Values -/

/-- The input after a word that it starts with. -/
def afterWord (word : String) (cs : List Symbol) : Option (List Symbol) :=
  let w := word.toList.map some
  if w.isPrefixOf cs then some (cs.drop w.length) else none

mutual

/-- A value and what follows it. -/
def readValue : Nat → List Symbol → Option (Json × List Symbol)
  | 0, _ => none
  | fuel + 1, cs =>
    match skipGap cs with
    | some '{' :: rest =>
      match skipGap rest with
      | some '}' :: rest => some (.object [], rest)
      | rest => (readMembers fuel rest).map fun r => (.object r.1, r.2)
    | some '[' :: rest =>
      match skipGap rest with
      | some ']' :: rest => some (.array [], rest)
      | rest => (readElements fuel rest).map fun r => (.array r.1, r.2)
    | some '"' :: rest => (readString rest).map fun r => (.string r.1, r.2)
    | some '-' :: rest => (readNumber true rest).map fun r => (.number r.1, r.2)
    | rest =>
      match afterWord "null" rest, afterWord "true" rest, afterWord "false" rest with
      | some after, _, _ => some (.null, after)
      | _, some after, _ => some (.bool true, after)
      | _, _, some after => some (.bool false, after)
      | none, none, none => (readNumber false rest).map fun r => (.number r.1, r.2)

/-- The elements of an array, up to its closing bracket. -/
def readElements : Nat → List Symbol → Option (List Json × List Symbol)
  | 0, _ => none
  | fuel + 1, cs =>
    match readValue fuel cs with
    | none => none
    | some (v, rest) =>
      match skipGap rest with
      | some ',' :: rest => (readElements fuel rest).map fun r => (v :: r.1, r.2)
      | some ']' :: rest => some ([v], rest)
      | _ => none

/-- The members of an object, up to its closing brace. -/
def readMembers : Nat → List Symbol → Option (List (Option String × Json) × List Symbol)
  | 0, _ => none
  | fuel + 1, cs =>
    match skipGap cs with
    | some '"' :: rest =>
      match readString rest with
      | none => none
      | some (key, rest) =>
        match skipGap rest with
        | some ':' :: rest =>
          match readValue fuel rest with
          | none => none
          | some (v, rest) =>
            match skipGap rest with
            | some ',' :: rest => (readMembers fuel rest).map fun r => ((key, v) :: r.1, r.2)
            | some '}' :: rest => some ([(key, v)], rest)
            | _ => none
        | _ => none
    | _ => none

end

/-- The value of a whole input. -/
def parseSymbols (cs : List Symbol) : Option Json :=
  match readValue (2 * cs.length + 1) cs with
  | some (v, rest) => if (skipGap rest).isEmpty then some v else none
  | none => none

/-- The value of a JSON text. -/
def parse (s : String) : Option Json :=
  parseSymbols (s.toList.map some)

/-- The value of a JSON text given as bytes. -/
def parseBytes (bs : List UInt8) : Option Json :=
  parseSymbols (Text.Utf8.decode bs)

end Json
end Gatehouse
