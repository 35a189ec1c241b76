import SparkLog.Decimal.Numeral
import SparkLog.Decimal.Notation

/-!
# Rounding halves away from zero

Figures in listings are rounded on their exact decimal, a half going away from zero. The rounded
coefficient may have at most 28 digits.
-/

namespace SparkLog.Decimal

/-- The most digits that a rounded coefficient may have. -/
def precision : Nat := 28

/-- The nearest integer to `num / den`, a half going up. -/
def roundHalfUp (num den : Nat) : Nat :=
  (2 * num + den) / (2 * den)

/-- The coefficient of a decimal on the grid of step `10 ^ -digits`, halves away from zero.
Exponents that decide the answer alone are answered without computing the power. -/
def gridCoefficient (d : Decimal) (digits : Int) : Nat :=
  let shift := d.exponent + digits
  if d.coefficient = 0 then 0
  else if 0 ≤ shift then d.coefficient * Nat.pow 10 (min shift.toNat (precision + 1))
  else if digitCount d.coefficient < (-shift).toNat then 0
  else roundHalfUp d.coefficient (Nat.pow 10 (-shift).toNat)

/-- The multiple of `10 ^ -digits` nearest to a decimal, halves away from zero, unless its
coefficient has too many digits. -/
def quantize? (d : Decimal) (digits : Int) : Option Decimal :=
  let coefficient := gridCoefficient d digits
  if digitCount coefficient ≤ precision then some ⟨d.negative, coefficient, -digits⟩ else none

/-- The floating-point number nearest to a decimal. -/
def toBinary64 (d : Decimal) : Binary64 :=
  Binary64.ofDecimal d.negative d.coefficient d.exponent

/-- The exact decimal of an integer. -/
def ofInt (n : Int) : Decimal :=
  ⟨n < 0, n.natAbs, 0⟩

/-- An integer rounded to `digits` places. -/
def roundInt? (n : Int) (digits : Int) : Option Binary64 :=
  (quantize? (ofInt n) digits).map toBinary64

/-- A floating-point number, by its shortest decimal, rounded to `digits` places. No number stays
as it is; an infinity has no decimal. -/
def roundFloat? (x : Binary64) (digits : Int) : Option Binary64 :=
  match x with
  | .nan => some .nan
  | .infinite _ => none
  | .finite negative rank => (quantize? (shortest negative rank) digits).map toBinary64

end SparkLog.Decimal
