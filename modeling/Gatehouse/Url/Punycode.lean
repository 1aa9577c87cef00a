/-!
# Punycode

A way to write any text with letters, digits and hyphens.  The ASCII characters of the text come
first, and after the last hyphen the others are listed from the smallest to the largest: each is
described by how far a walk over all places and all characters has to go from the one before, and
that distance is written in digits of base 36 whose thresholds adapt to the distances seen so far.
-/

set_option autoImplicit false

namespace Gatehouse
namespace Url
namespace Punycode

/-! ## Digits -/

/-- The number of digits. -/
def base : Nat := 36

/-- A digit: the letters come first, then the figures. -/
def digit (n : Nat) : Char :=
  if n < 26 then Char.ofNat ('a'.toNat + n) else Char.ofNat ('0'.toNat + (n - 26))

/-- The value of a digit in letters of either case. -/
def value? (c : Char) : Option Nat :=
  if 'a' ≤ c ∧ c ≤ 'z' then some (c.toNat - 'a'.toNat)
  else if 'A' ≤ c ∧ c ≤ 'Z' then some (c.toNat - 'A'.toNat)
  else if '0' ≤ c ∧ c ≤ '9' then some (c.toNat - '0'.toNat + 26)
  else none

/-- The threshold of the digit in a place, given as a multiple of the base: a smaller digit is the
last of its number. -/
def threshold (place bias : Nat) : Nat :=
  max 1 (min 26 (place - bias))

theorem threshold_pos (place bias : Nat) : 1 ≤ threshold place bias := by
  simp only [threshold]; omega

/-- Divide by 35 until the number is small, counting places. -/
def shrink (delta place : Nat) : Nat × Nat :=
  if 455 < delta then shrink (delta / 35) (place + base) else (delta, place)
termination_by delta
decreasing_by exact Nat.div_lt_self (by omega) (by decide)

/-- The bias after a distance, when so many characters are placed. -/
def adapt (delta count : Nat) (first : Bool) : Nat :=
  let halved := if first then delta / 700 else delta / 2
  let (rest, place) := shrink (halved + halved / count) 0
  place + 36 * rest / (rest + 38)

/-! ## Writing -/

/-- The digits of a distance, from a place on. -/
def digits (bias place n : Nat) : List Char :=
  let t := threshold place bias
  if n < t then [digit n]
  else digit (t + (n - t) % (base - t)) :: digits bias (place + base) ((n - t) / (base - t))
termination_by n
decreasing_by
  have h := threshold_pos place bias
  exact Nat.lt_of_le_of_lt (Nat.div_le_self _ _) (by omega)

/-- The state of writing: the distance so far, the bias, and how many characters are placed. -/
structure Walk where
  delta : Nat
  bias : Nat
  placed : Nat
deriving Repr, DecidableEq

/-- Pass one character of the text while looking for those with a code point. -/
def Walk.step (first : Nat) (n : Nat) (acc : Walk × List Char) (c : Char) : Walk × List Char :=
  let (w, out) := acc
  if c.toNat < n then ({ w with delta := w.delta + 1 }, out)
  else if c.toNat = n then
    (⟨0, adapt w.delta (w.placed + 1) (w.placed == first), w.placed + 1⟩,
      out ++ digits w.bias base w.delta)
  else acc

/-- Describe the characters with some code points, in ascending order, after all smaller than
`n`. -/
def describe (cs : List Char) (first : Nat) : Nat → Walk → List Nat → List Char
  | _, _, [] => []
  | n, w, m :: ms =>
    let start := { w with delta := w.delta + (m - n) * (w.placed + 1) }
    let (w, out) := cs.foldl (Walk.step first m) (start, [])
    out ++ describe cs first (m + 1) { w with delta := w.delta + 1 } ms

/-- A number put into an ascending list without repetitions. -/
def insert (n : Nat) : List Nat → List Nat
  | [] => [n]
  | m :: ms => if n < m then n :: m :: ms else if n = m then m :: ms else m :: insert n ms

/-- The text in letters, digits and hyphens. -/
def encode (cs : List Char) : List Char :=
  let ascii := cs.filter fun c => c.toNat < 128
  let others := (cs.filter fun c => 128 ≤ c.toNat).foldr (fun c ns => insert c.toNat ns) []
  let hyphen := if ascii.isEmpty then [] else ['-']
  ascii ++ hyphen ++ describe cs ascii.length 128 ⟨0, 72, ascii.length⟩ others

/-! ## Reading -/

/-- A distance read from digits: the sum so far and the weight of the next digit are given. -/
def distance? (bias : Nat) : Nat → Nat → Nat → List Char → Option (Nat × List Char)
  | _, _, _, [] => none
  | place, weight, sum, c :: cs =>
    match value? c with
    | none => none
    | some d =>
      let sum := sum + d * weight
      let t := threshold place bias
      if d < t then some (sum, cs) else distance? bias (place + base) (weight * (base - t)) sum cs

/-- The greatest number that a reader counts to. -/
def limit : Nat := 0xFFFFFFFF

/-- Place the characters that digits describe: the place and the code point reached so far, and the
text so far, are given. -/
def place? (fuel : Nat) (bias i n : Nat) (out : List Char) (cs : List Char) : Option (List Char) :=
  match fuel, cs with
  | _, [] => some out
  | 0, _ => none
  | fuel + 1, cs =>
    match distance? bias base 1 i cs with
    | none => none
    | some (j, rest) =>
      let count := out.length + 1
      let m := n + j / count
      if j ≤ limit ∧ m.isValidChar then
        let at' := j % count
        place? fuel (adapt (j - i) count (i == 0)) (at' + 1) m
          (out.take at' ++ Char.ofNat m :: out.drop at') rest
      else none

/-- What stands in front of the last hyphen, and what stands behind it. -/
def cutAtLastHyphen (cs : List Char) : List Char × List Char :=
  match cs.reverse.dropWhile (· != '-') with
  | [] => ([], cs)
  | _ :: front => (front.reverse, (cs.reverse.takeWhile (· != '-')).reverse)

/-- The text that letters, digits and hyphens stand for. -/
def decode? (cs : List Char) : Option (List Char) :=
  let (ascii, described) := cutAtLastHyphen cs
  place? described.length 72 0 128 ascii described

end Punycode
end Url
end Gatehouse
