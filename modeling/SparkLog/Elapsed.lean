import SparkLog.Payload.Arithmetic
import SparkLog.Decimal.Fixed

/-!
# Elapsed time

The time between two moments in milliseconds, and how it is written: in milliseconds, seconds,
minutes or hours, with one place where the number is small.
-/

namespace SparkLog.Elapsed

/-- The time from a start to an end, where both are known. -/
def between (start finish : Option Int) : Option Int :=
  match start, finish with
  | some s, some f => some (f - s)
  | _, _ => none

/-- The floating-point number of a whole number. -/
def whole (n : Int) : Binary64 :=
  Binary64.ofRatio n 1

/-- Whether a number is below a whole number. -/
def below (x : Binary64) (n : Int) : Bool :=
  Binary64.compareInt? x n == some .lt

/-- The text of a time in milliseconds. It fails only for times past the floating-point range. -/
def text (milliseconds : Int) : Except Failure String := do
  if milliseconds < 100 then
    return Decimal.intText milliseconds ++ " ms"
  let seconds ← Payload.divideInts milliseconds 1000
  if below seconds 1 then
    return seconds.fixed 1 ++ " s"
  if below seconds 60 then
    return seconds.fixed 0 ++ " s"
  let minutes := Binary64.div seconds (whole 60)
  if below minutes 10 then
    return minutes.fixed 1 ++ " min"
  if below minutes 60 then
    return minutes.fixed 0 ++ " min"
  return (Binary64.div minutes (whole 60)).fixed 1 ++ " h"

/-- The text of a time that may be unknown; an unknown time has none. -/
def optionText : Option Int → Except Failure String
  | none => .ok ""
  | some milliseconds => text milliseconds

end SparkLog.Elapsed
