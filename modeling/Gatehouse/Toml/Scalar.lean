import Gatehouse.Json.Basic

/-!
# Numbers, dates and truth values in TOML documents

A scalar is a run of letters, digits and a few signs, and the whole run has to be of one of the
forms here.  Integers may be decimal, hexadecimal, octal or binary, may have an underscore between
any two digits, and must fit in 64 bits with a sign.  Numbers with a fraction or an exponent, and
dates and times of day, are checked and then kept as they are spelled.
-/

set_option autoImplicit false

namespace Gatehouse
namespace Toml
namespace Scalar

/-! ## Digits -/

/-- The value of a digit, whatever its base. -/
def digit? (base : Nat) (c : Char) : Option Nat :=
  let v :=
    if '0' ≤ c ∧ c ≤ '9' then c.toNat - '0'.toNat
    else if 'a' ≤ c ∧ c ≤ 'f' then c.toNat - 'a'.toNat + 10
    else if 'A' ≤ c ∧ c ≤ 'F' then c.toNat - 'A'.toNat + 10
    else base
  if v < base then some v else none

/-- The values of some digits, of which there is at least one; an underscore may stand between
two. -/
def digits? (base : Nat) : List Char → Option (List Nat)
  | [] => none
  | [c] => (digit? base c).map fun d => [d]
  | c :: '_' :: rest => (digit? base c).bind fun d => (digits? base rest).map (d :: ·)
  | c :: rest => (digit? base c).bind fun d => (digits? base rest).map (d :: ·)

/-- The value of some digits. -/
def value (base : Nat) (digits : List Nat) : Nat :=
  digits.foldl (fun n d => n * base + d) 0

/-- The value of decimal digits without superfluous zeros. -/
def whole? (cs : List Char) : Option Nat :=
  match digits? 10 cs with
  | some (0 :: _ :: _) => none
  | some ds => some (value 10 ds)
  | none => none

/-- A text without its sign, and whether the sign was a minus. -/
def unsigned : List Char → Bool × List Char
  | '-' :: cs => (true, cs)
  | '+' :: cs => (false, cs)
  | cs => (false, cs)

/-! ## Integers -/

/-- An integer, if it fits. -/
def integer (isNegative : Bool) (n : Nat) : Option Json.Number :=
  if isNegative then
    if 0x8000000000000000 < n then none else some (if n = 0 then .natural 0 else .negative n)
  else if 0x8000000000000000 ≤ n then none
  else some (.natural n)

/-- The integer that a text spells. -/
def integer? : List Char → Option Json.Number
  | '0' :: 'x' :: cs => (digits? 16 cs).bind fun ds => integer false (value 16 ds)
  | '0' :: 'o' :: cs => (digits? 8 cs).bind fun ds => integer false (value 8 ds)
  | '0' :: 'b' :: cs => (digits? 2 cs).bind fun ds => integer false (value 2 ds)
  | cs =>
    let (isNegative, ds) := unsigned cs
    (whole? ds).bind (integer isNegative)

/-! ## Numbers with a fraction -/

/-- Whether a text is the mark of an exponent. -/
def isExponentMark (c : Char) : Bool :=
  c == 'e' || c == 'E'

/-- Whether a text ends as a number with a fraction or an exponent must, from its point or its mark
on. -/
def isTail (cs : List Char) : Bool :=
  match cs.takeWhile (!isExponentMark ·), cs.dropWhile (!isExponentMark ·) with
  | '.' :: fraction, [] => (digits? 10 fraction).isSome
  | '.' :: fraction, _ :: exponent =>
    (digits? 10 fraction).isSome && (digits? 10 (unsigned exponent).2).isSome
  | [], _ :: exponent => (digits? 10 (unsigned exponent).2).isSome
  | _, _ => false

/-- Whether a text spells a number with a fraction or an exponent, or one that is none. -/
def isFractional (cs : List Char) : Bool :=
  let ds := (unsigned cs).2
  let isInside (c : Char) := c != '.' && !isExponentMark c
  ds == "inf".toList || ds == "nan".toList ||
    ((whole? (ds.takeWhile isInside)).isSome && isTail (ds.dropWhile isInside))

/-! ## Dates and times -/

/-- The value of exactly two digits. -/
def two? (a b : Char) : Option Nat :=
  (digit? 10 a).bind fun x => (digit? 10 b).map fun y => x * 10 + y

/-- The number of days in a month. -/
def daysIn (year month : Nat) : Nat :=
  if month = 2 then
    if year % 4 = 0 ∧ (year % 100 ≠ 0 ∨ year % 400 = 0) then 29 else 28
  else if month = 4 ∨ month = 6 ∨ month = 9 ∨ month = 11 then 30
  else 31

/-- What follows a date, if a text starts with one. -/
def afterDate? : List Char → Option (List Char)
  | a :: b :: c :: d :: '-' :: e :: f :: '-' :: g :: h :: rest => do
    let year := (← two? a b) * 100 + (← two? c d)
    let month ← two? e f
    let day ← two? g h
    if 1 ≤ month ∧ month ≤ 12 ∧ 1 ≤ day ∧ day ≤ daysIn year month then return rest
    none
  | _ => none

/-- What follows hours and minutes, if a text starts with them. -/
def afterMinutes? : List Char → Option (List Char)
  | a :: b :: ':' :: c :: d :: rest => do
    if (← two? a b) ≤ 23 ∧ (← two? c d) ≤ 59 then return rest
    none
  | _ => none

/-- What follows a time of day, if a text starts with one. -/
def afterTime? (cs : List Char) : Option (List Char) := do
  match ← afterMinutes? cs with
  | ':' :: e :: f :: rest =>
    if 60 < (← two? e f) then none
    match rest with
    | '.' :: fraction =>
      if (fraction.head?.bind (digit? 10)).isNone then none
      return fraction.dropWhile fun c => (digit? 10 c).isSome
    | rest => return rest
  | _ => none

/-- Whether a text is nothing, or the distance of a place from the meridian. -/
def isOffset : List Char → Bool
  | [] => true
  | ['Z'] => true
  | ['z'] => true
  | '+' :: cs => afterMinutes? cs == some []
  | '-' :: cs => afterMinutes? cs == some []
  | _ => false

/-- Whether a text spells a date, a time of day, or both. -/
def isMoment (cs : List Char) : Bool :=
  match afterDate? cs with
  | some [] => true
  | some (c :: rest) =>
    (c == 'T' || c == 't' || c == ' ') && ((afterTime? rest).map isOffset).getD false
  | none => afterTime? cs == some []

/-! ## Any scalar -/

/-- Whether a character can belong to a scalar. -/
def isPart (c : Char) : Bool :=
  c.isAlphanum || c == '+' || c == '-' || c == '_' || c == '.' || c == ':'

/-- The run of characters that has to be a scalar, and what follows it.  A blank belongs to it
between a date and a time of day. -/
def run (cs : List Char) : List Char × List Char :=
  let front := cs.takeWhile isPart
  match cs.dropWhile isPart with
  | ' ' :: rest =>
    if afterDate? front = some [] && (rest.head?.bind (digit? 10)).isSome then
      (front ++ ' ' :: rest.takeWhile isPart, rest.dropWhile isPart)
    else (front, ' ' :: rest)
  | rest => (front, rest)

/-- The scalar that a text spells. -/
def parse? (cs : List Char) : Option Json :=
  if cs = "true".toList then some (.bool true)
  else if cs = "false".toList then some (.bool false)
  else
    match integer? cs with
    | some n => some (.number n)
    | none =>
      if isFractional cs || isMoment cs then some (.number (.fractional (String.ofList cs)))
      else none

end Scalar
end Toml
end Gatehouse
