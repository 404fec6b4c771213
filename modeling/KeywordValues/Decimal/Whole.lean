/-!
# Whole numbers in decimal

Whole numbers are written without padding, with a minus sign below zero.
-/

namespace KeywordValues.Decimal

/-- The decimal digits of a natural number. -/
def natural (n : Nat) : List Char := Nat.toDigits 10 n

/-- An integer: a minus sign below zero, then the digits of its magnitude. -/
def integer : Int → List Char
  | .ofNat n => natural n
  | .negSucc n => '-' :: natural (n + 1)

/-- `natural` as a text. -/
def naturalText (n : Nat) : String := String.ofList (natural n)

/-- `integer` as a text. -/
def integerText (i : Int) : String := String.ofList (integer i)

/-- Whether a character is one of the ten decimal digits. -/
def isDigit (c : Char) : Bool := '0' ≤ c && c ≤ '9'

/-- The value of a decimal digit. -/
def digitValue (c : Char) : Nat := c.toNat - '0'.toNat

end KeywordValues.Decimal
