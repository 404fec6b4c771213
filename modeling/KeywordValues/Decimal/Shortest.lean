/-!
# The fewest decimal digits that read back

A positive double is `significand · 2 ^ exponent`, and the reals that round to it form an interval.
For one digit, two digits and so on, the two neighbours of the double on the decimal grid with that
many digits are tried: the first grid with a neighbour in the interval wins, and of two neighbours
in it the nearer. All comparisons are exact, in natural numbers.
-/

namespace KeywordValues.Decimal

/-- Which of two decimals is taken when a number lies half-way between them. -/
inductive Tie where
  /-- The greater. -/
  | up
  /-- The one whose last digit is even. -/
  | even
deriving DecidableEq, Repr

/-- A positive decimal number, `coefficient · 10 ^ exponent`. -/
structure Scientific where
  coefficient : Nat
  exponent : Int
deriving DecidableEq, Repr

/-- A positive double, `significand · 2 ^ exponent`. -/
structure Double where
  significand : Nat
  exponent : Int
  /-- Whether the next smaller double is only half as far away as the next greater. -/
  closerBelow : Bool
deriving DecidableEq, Repr

namespace Double

/-- The leading bit of a significand, `2 ^ 52`, which is not stored. -/
def leadingBit : Nat := 4503599627370496

/-- The magnitude that the 63 low bits of a finite double encode: 52 bits of the significand, and
above them 11 bits of the exponent. -/
def ofBits (b : UInt64) : Double :=
  let fraction : Nat := b.toNat % leadingBit
  let biased : Nat := b.toNat / leadingBit % 2048
  if biased = 0 then ⟨fraction, -1074, false⟩
  else ⟨fraction + leadingBit, (biased : Int) - 1075, fraction == 0 && 1 < biased⟩

/-- The ends of the interval that rounds to a double and the double itself, in quarters of its
unit: lower end, double, upper end. -/
def quarters (x : Double) : Nat × Nat × Nat :=
  let m := 4 * x.significand
  (m - (if x.closerBelow then 1 else 2), m, m + 2)

/-- `q` quarters of the unit compare with `c · 10 ^ k` as `q · (scale k).1` with
`c · (scale k).2`. -/
def scale (x : Double) (k : Int) : Nat × Nat :=
  (Nat.pow 2 (x.exponent - 2).toNat * Nat.pow 10 (-k).toNat,
    Nat.pow 2 (2 - x.exponent).toNat * Nat.pow 10 k.toNat)

/-- Whether `c · 10 ^ k` rounds to the double. The ends of the interval do iff the significand is
even. -/
def admits (x : Double) (k : Int) (c : Nat) : Bool :=
  let (a, b) := x.scale k
  let (lower, _, upper) := x.quarters
  if x.significand % 2 = 0 then lower * a ≤ c * b && c * b ≤ upper * a
  else lower * a < c * b && c * b < upper * a

/-- The point of the grid of multiples of `10 ^ k` that rounds to the double and is nearest to it,
if one does. -/
def onGrid? (tie : Tie) (x : Double) (k : Int) : Option Nat :=
  let (a, b) := x.scale k
  let v := x.quarters.2.1 * a
  let c := v / b
  match x.admits k c, x.admits k (c + 1) with
  | false, false => none
  | true, false => some c
  | false, true => some (c + 1)
  | true, true =>
      let (below, above) := (v - c * b, (c + 1) * b - v)
      if below < above then some c
      else if above < below then some (c + 1)
      else match tie with
        | .up => some (c + 1)
        | .even => some (if c % 2 = 0 then c else c + 1)

/-- The number `p` with `10 ^ (p - 1) ≤ x < 10 ^ p`. The estimate from the binary logarithm is `p`
or one less. -/
def magnitude (x : Double) : Int :=
  let p := (Nat.log2 x.significand + x.exponent) * 30103 / 100000 + 1
  let (a, b) := x.scale p
  if 4 * x.significand * a < b then p else p + 1

/-- Tries the grids with the given numbers of digits in turn, for a double of magnitude `p`. -/
def firstOnGrid (tie : Tie) (x : Double) (p : Int) : List Nat → Scientific
  | [] => ⟨0, 0⟩
  | n :: ns =>
      match x.onGrid? tie (p - n) with
      | some c => ⟨c, p - n⟩
      | none => firstOnGrid tie x p ns

/-- The nearest decimal among those with the fewest digits that round to the double. Seventeen
digits suffice for every double. -/
def shortest (tie : Tie) (x : Double) : Scientific :=
  x.firstOnGrid tie x.magnitude ((List.range 17).map (· + 1))

end Double

end KeywordValues.Decimal
