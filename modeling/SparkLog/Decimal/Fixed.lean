import SparkLog.Decimal.Notation

/-!
# Numbers with a given number of places

The exact binary value is rounded to a decimal grid, a half going to the even neighbour. A
negative number keeps its sign when it rounds to zero.
-/

namespace SparkLog.Binary64

open Decimal

/-- The text of infinities and of no number; `body` writes the magnitude of a rank. -/
def withSign (x : Binary64) (body : Nat → List Char) : String :=
  match x with
  | .nan => "nan"
  | .infinite false => "inf"
  | .infinite true => "-inf"
  | .finite negative rank => String.ofList ((if negative then ['-'] else []) ++ body rank)

/-- A count of steps of `10 ^ -places`, written with that many places. -/
def placesChars (places steps : Nat) : List Char :=
  let body := digits steps
  let body := zeros (places + 1 - body.length) ++ body
  let whole := body.take (body.length - places)
  if places = 0 then whole else whole ++ '.' :: body.drop (body.length - places)

/-- The number with exactly `places` digits after the point. -/
def fixed (places : Nat) (x : Binary64) : String :=
  x.withSign fun rank =>
    placesChars places (roundHalfEven (unitsOfRank rank * Nat.pow 10 places) unitsOfOne)

/-- The number with one digit before the point, `places` after it, and an exponent. -/
def exponential (places : Nat) (x : Binary64) : String :=
  x.withSign fun rank =>
    if rank = 0 then placesChars places 0 ++ exponentChars 0
    else
      let point := decimalPoint (2 * unitsOfRank rank)
      let (num, den) := halfUnitsOfPower (point - 1 - places)
      let steps := roundHalfEven (2 * unitsOfRank rank * den) num
      if steps = Nat.pow 10 (places + 1) then
        placesChars places (Nat.pow 10 places) ++ exponentChars point
      else placesChars places steps ++ exponentChars (point - 1)

end SparkLog.Binary64
