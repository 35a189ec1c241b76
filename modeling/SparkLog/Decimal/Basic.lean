/-!
# Decimal numbers

A decimal is a sign, a coefficient and a power of ten. Both zeros are kept apart by their sign.
-/

namespace SparkLog

/-- The decimal `± coefficient * 10 ^ exponent`. -/
structure Decimal where
  negative : Bool
  coefficient : Nat
  exponent : Int
  deriving DecidableEq, Repr

namespace Decimal

/-- The decimal digits of a natural number, most significant first; zero has one digit. -/
def digits (n : Nat) : List Char :=
  Nat.toDigits 10 n

/-- How many decimal digits a natural number has. -/
def digitCount (n : Nat) : Nat :=
  (digits n).length

/-- The most digits that are read as an integer. -/
def digitLimit : Nat := 4300

/-- The text of an integer, whatever its size: the integers that are read have at most `digitLimit`
digits, and no limit is put on those that are written. -/
def intChars (n : Int) : List Char :=
  if n < 0 then '-' :: digits n.natAbs else digits n.natAbs

/-- The text of an integer. -/
def intText (n : Int) : String :=
  String.ofList (intChars n)

/-- Take trailing zeros off a coefficient, raising the exponent by one for each; `fuel` bounds
how many. -/
def stripZeros : Nat → Nat → Int → Nat × Int
  | 0, coefficient, exponent => (coefficient, exponent)
  | fuel + 1, coefficient, exponent =>
    if coefficient ≠ 0 ∧ coefficient % 10 = 0 then
      stripZeros fuel (coefficient / 10) (exponent + 1)
    else (coefficient, exponent)

end Decimal

end SparkLog
