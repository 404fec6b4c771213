import KeywordValues.Decimal.Word

/-!
# Values of decimal numerals

A numeral is a sign, digits, an optional fraction and an optional exponent. Its value is an integer
where it has neither fraction nor exponent and its digits fit 64 bits. Otherwise it is a double,
computed from the leading digits that fit 64 bits and a power of ten: the double nearest to the
digits is multiplied or divided by the double nearest to the power. The result can differ from the
double nearest to the numeral.
-/

namespace KeywordValues.Decimal

/-- A decimal numeral by its parts, each digit by its value. -/
structure Numeral where
  negative : Bool
  whole : List Nat
  fraction : List Nat
  /-- Whether the exponent is negative, and its digits. -/
  exponent : Option (Bool × List Nat)
  /-- Whether there is neither a fraction nor an exponent. -/
  plain : Bool
deriving DecidableEq, Repr

/-- The value of a numeral. -/
inductive NumeralValue where
  | whole (n : Word)
  | double (x : Float)
  /-- Beyond every double, which was clear when this many of the numeral's last digits were not
  yet read. -/
  | outOfRange (unread : Nat)

namespace Numeral

/-- Appends digits to a significand for as long as it stays below `2 ^ 64`, and counts the digits
left out. -/
def extend (s : Nat) : List Nat → Nat × Nat
  | [] => (s, 0)
  | d :: ds => if s * 10 + d < UInt64.size then extend (s * 10 + d) ds else (s, ds.length + 1)

/-- The digits of an exponent as a number. One above `2 ^ 31 - 1` is given up, with the number of
digits after the one that shows it. -/
def exponentValue (x : Nat) : List Nat → Except Nat Nat
  | [] => .ok x
  | d :: ds => if x * 10 + d < 2147483648 then exponentValue (x * 10 + d) ds else .error ds.length

/-- The double nearest to a power of ten. -/
def powerOfTen (k : Nat) : Float := Float.ofScientific 1 false k

/-- A double times `10 ^ e`, in steps of the powers up to `10 ^ 308`. There is no result where it
would be infinite. -/
def scale? (x : Float) (e : Int) : Option Float :=
  if e.natAbs ≤ 308 then
    if 0 ≤ e then
      let y := x * powerOfTen e.natAbs
      if y.isInf then none else some y
    else some (x / powerOfTen e.natAbs)
  else if x == 0 then some x
  else if 0 ≤ e then none
  else scale? (x / powerOfTen 308) (e + 308)
termination_by e.natAbs
decreasing_by omega

/-- The number nearest to the given one between `-2 ^ 31` and `2 ^ 31 - 1`. -/
def clamp (e : Int) : Int := max (-2147483648) (min 2147483647 e)

/-- A double with the sign of the numeral. -/
def signed (n : Numeral) (x : Float) : Float := if n.negative then -x else x

/-- The significand, and the power of ten that the digits left out and the fraction add to it. -/
def significand (n : Numeral) : Nat × Int :=
  let (w, dropped) := extend 0 n.whole
  let (s, omitted) := extend w n.fraction
  (s, dropped - (n.fraction.length - omitted : Nat))

/-- A double from a significand and a power of ten. -/
def double (n : Numeral) (s : Nat) (e : Int) : NumeralValue :=
  match scale? (UInt64.ofNat s).toFloat e with
  | some x => .double (n.signed x)
  | none => .outOfRange 0

/-- The value of a numeral: a whole number of 64 bits if it is written as one and is not `-0`, and
a double otherwise. -/
def value (n : Numeral) : NumeralValue :=
  let (s, e) := n.significand
  match n.exponent with
  | none =>
      if n.plain && e == 0 && !(n.negative && s == 0) then
        match Word.ofInt? (if n.negative then -s else s) with
        | some w => .whole w
        | none => n.double s 0
      else n.double s e
  | some (down, ds) =>
      match exponentValue 0 ds with
      | .ok x => n.double s (clamp (if down then e - x else e + x))
      | .error unread =>
          if s = 0 ∨ down then .double (n.signed 0) else .outOfRange unread

end Numeral

end KeywordValues.Decimal
