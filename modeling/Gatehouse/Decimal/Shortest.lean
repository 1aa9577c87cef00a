/-!
# The shortest decimal of a binary number

A number of the form `m * 2 ^ q`, with `m` of at most fifty-three bits, stands for all the reals
that round to it.  Of the decimals among these, the one with the fewest digits is written, and of
several with as few the nearest.

`shortest` looks at coarser grids of decimals first.  On each grid only the two neighbours of the
number can be nearest to it, so if neither of them rounds to it, no other point of the grid does.
All comparisons are made on whole numbers: what is compared is brought to a common denominator.
-/

set_option autoImplicit false

namespace Gatehouse

/-- The number `digits * 10 ^ exponent`. -/
structure Decimal where
  digits : Nat
  exponent : Int
deriving Repr, DecidableEq

namespace Decimal

/-- The number `m * 2 ^ q`. -/
structure Binary where
  m : Nat
  q : Int
deriving Repr, DecidableEq

/-- A power of two. -/
def two (n : Nat) : Nat := Nat.pow 2 n

/-- A power of ten. -/
def ten (n : Nat) : Nat := Nat.pow 10 n

/-- The non-negative number with the given sixty-four bits, whose first bit is passed over. -/
def ofBits (bits : UInt64) : Binary :=
  let fraction := bits.toNat % two 52
  let power : Nat := bits.toNat / two 52 % two 11
  if power = 0 then ⟨fraction, -1074⟩ else ⟨two 52 + fraction, (power : Int) - 1075⟩

/-- The least value of `m` of a number whose lower neighbour is half as far away as its upper
one. -/
def leastNormal : Nat := two 52

/-- Whether `d` on the grid of multiples of `10 ^ k` rounds to the number: four times its distance
is at most twice the step to the neighbour on that side, where the end counts only if `m` is
even. -/
def roundsTo (b : Binary) (k : Int) (d : Nat) : Bool :=
  let x := 4 * d * ten k.toNat * two (-b.q).toNat
  let y := ten (-k).toNat * two b.q.toNat
  let below := if b.m = leastNormal ∧ -1074 < b.q then 1 else 2
  let lo := (4 * b.m - below) * y
  let hi := (4 * b.m + 2) * y
  if b.m % 2 = 0 then lo ≤ x && x ≤ hi else lo < x && x < hi

/-- The number rounded down to a multiple of `10 ^ k`, in units of `10 ^ k`. -/
def floorAt (b : Binary) (k : Int) : Nat :=
  b.m * two b.q.toNat * ten (-k).toNat / (two (-b.q).toNat * ten k.toNat)

/-- Whether the upper neighbour on the grid is nearer than the lower one. -/
def isUpperNearer (b : Binary) (k : Int) (d : Nat) : Bool :=
  (2 * d + 1) * ten k.toNat * two (-b.q).toNat < 2 * b.m * two b.q.toNat * ten (-k).toNat

/-- The best decimal on the grid of multiples of `10 ^ k`, if there is one that rounds to the
number. -/
def onGrid? (b : Binary) (k : Int) : Option Nat :=
  let d := floorAt b k
  match decide (0 < d) && roundsTo b k d, roundsTo b k (d + 1) with
  | true, true => some (if isUpperNearer b k d then d + 1 else d)
  | true, false => some d
  | false, true => some (d + 1)
  | false, false => none

/-- The decimal on the first of some grids, from a coarse one to ever finer ones, that has one. -/
def search (b : Binary) : Nat → Int → Decimal
  | 0, k => ⟨floorAt b k, k⟩
  | fuel + 1, k =>
    match onGrid? b k with
    | some d => ⟨d, k⟩
    | none => search b fuel (k - 1)

/-- A power of ten that is above the number, though not by much. -/
def coarsest (b : Binary) : Int :=
  ((Nat.log2 b.m : Int) + b.q + 1) * 30103 / 100000 + 2

/-- The shortest decimal of a number.  Seventeen digits are always enough. -/
def shortest (b : Binary) : Decimal :=
  if b.m = 0 then ⟨0, 0⟩ else search b 24 (coarsest b)

/-- A decimal without an exponent: zeros are put in front of the point or behind it as needed, and
there is no point if nothing follows it. -/
def positional (d : Decimal) : String :=
  let ds := (toString d.digits).toList
  if 0 ≤ d.exponent then String.ofList (ds ++ List.replicate d.exponent.toNat '0')
  else
    let places := (-d.exponent).toNat
    let ds := List.replicate (places + 1 - ds.length) '0' ++ ds
    let whole := ds.take (ds.length - places)
    String.ofList (whole ++ '.' :: ds.drop (ds.length - places))

/-- A floating-point number as the shortest decimal, without an exponent. -/
def ofFloat (x : Float) : String :=
  let bits := x.toBits
  let sign := if two 63 ≤ bits.toNat then "-" else ""
  sign ++ (shortest (ofBits bits)).positional

end Decimal
end Gatehouse
