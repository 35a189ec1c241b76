import SparkLog.Payload.Text
import SparkLog.Decimal.HalfUp

/-!
# Rounding payloads

Any payload can be asked for its rounded value: a number, or a text that is a decimal numeral.
-/

namespace SparkLog.Payload

/-- The value of a payload rounded to `digits` places, halves away from zero, by the exact decimal
of its text. Null has none; what is no decimal, and what would need too many digits, fails. -/
def round (p : Payload) (digits : Int) : Except Failure (Option Binary64) :=
  let answer (x : Option Binary64) : Except Failure (Option Binary64) :=
    match x with
    | some x => .ok (some x)
    | none => .error .notOnGrid
  match p with
  | .null => .ok none
  | .int n => answer (Decimal.roundInt? n digits)
  | .float x => answer (Decimal.roundFloat? x digits)
  | other =>
    match Decimal.reading? other.render with
    | some (.number d) => answer ((Decimal.quantize? d digits).map Decimal.toBinary64)
    | some .quietNan => .ok (some .nan)
    | some .infinity | none => .error .notOnGrid

end SparkLog.Payload
