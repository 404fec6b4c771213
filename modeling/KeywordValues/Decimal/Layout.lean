import KeywordValues.Decimal.Shortest
import KeywordValues.Decimal.Whole

/-!
# Texts of doubles

The fewest digits that read back, laid out with or without an exponent. A `Layout` collects the
decisions of an output format; `Layout.render` follows them.
-/

namespace KeywordValues.Decimal

/-- The decisions of a format for doubles. -/
structure Layout where
  /-- Which of two equally near shortest decimals is written. -/
  tie : Tie
  /-- The least power of ten that a number without an exponent starts at. -/
  leastPositional : Int
  /-- The least power of ten at which an exponent is written. -/
  leastScientific : Int
  /-- Whether a positive exponent has a sign. -/
  plusSign : Bool
  /-- The texts of not-a-number, of infinity and of minus infinity. -/
  nan : String
  infinity : String
  minusInfinity : String

namespace Layout

/-- Digits without an exponent: `p` of them stand before the point, filled with zeros where the
digits end or have not begun, and at least one digit stands on either side. -/
def positional (ds : List Char) (p : Int) : List Char :=
  if p ≤ 0 then '0' :: '.' :: (List.replicate (-p).toNat '0' ++ ds)
  else if ds.length ≤ p.toNat then ds ++ List.replicate (p.toNat - ds.length) '0' ++ ['.', '0']
  else ds.take p.toNat ++ '.' :: ds.drop p.toNat

/-- Digits with an exponent: one digit, a point and the others if there are any, the exponent of
the first digit. -/
def scientific (l : Layout) (ds : List Char) (x : Int) : List Char :=
  let mantissa := match ds with
    | d :: e :: es => d :: '.' :: e :: es
    | _ => ds
  mantissa ++ 'e' :: ((if l.plusSign && 0 ≤ x then ['+'] else []) ++ integer x)

/-- A coefficient without its trailing zeros, and their number. -/
def dropZeros (fuel : Nat) (n : Nat) : Nat × Nat :=
  match fuel with
  | 0 => (n, 0)
  | fuel + 1 =>
      if n ≠ 0 ∧ n % 10 = 0 then
        let (m, zeros) := dropZeros fuel (n / 10)
        (m, zeros + 1)
      else (n, 0)

/-- A positive finite double. -/
def magnitude (l : Layout) (b : UInt64) : List Char :=
  let s := (Double.ofBits b).shortest l.tie
  let (c, zeros) := dropZeros 20 s.coefficient
  let ds := natural c
  let p := s.exponent + zeros + ds.length
  if l.leastPositional ≤ p - 1 && p - 1 < l.leastScientific then positional ds p
  else l.scientific ds (p - 1)

/-- The text of a double, zero with its sign. -/
def render (l : Layout) (x : Float) : List Char :=
  let b := x.toBits
  let sign := if b < 0x8000000000000000 then [] else ['-']
  if x.isNaN then l.nan.toList
  else if x.isInf then (if sign.isEmpty then l.infinity else l.minusInfinity).toList
  else if b <<< 1 = 0 then sign ++ "0.0".toList
  else sign ++ l.magnitude b

end Layout

/-- Values shown to a reader: no exponent from `0.0001` up to below `10 ^ 16`, a half-way case goes
up, and the values that are not finite have names. -/
def Layout.display : Layout where
  tie := .up
  leastPositional := -4
  leastScientific := 16
  plusSign := false
  nan := "NaN"
  infinity := "inf"
  minusInfinity := "-inf"

/-- Numbers in JSON: no exponent from `0.00001` up to below `10 ^ 16`, a sign on every exponent, a
half-way case goes to the even digit. JSON has no number for the values that are not finite. -/
def Layout.json : Layout where
  tie := .even
  leastPositional := -5
  leastScientific := 16
  plusSign := true
  nan := "null"
  infinity := "null"
  minusInfinity := "null"

end KeywordValues.Decimal
