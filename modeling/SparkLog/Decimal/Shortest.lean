import SparkLog.Number.Binary64
import SparkLog.Decimal.Basic

/-!
# Shortest decimals

The decimals that round to a given finite number form an interval around it. The shortest decimal
of the number is the one with the fewest digits in that interval, and of those the nearest to it.
On a decimal grid only the two grid points next to the number have to be tried: if any point of
the grid lies in the interval, one of these two does.
-/

namespace SparkLog.Decimal

open Binary64

/-- The interval of values that round to one magnitude, in half units: its lower end, twice the
magnitude itself, its upper end, and whether the ends belong to it. -/
structure RoundingInterval where
  lower : Nat
  middle : Nat
  upper : Nat
  closed : Bool

/-- The rounding interval of a rank. The ends are half way to the neighbouring magnitudes and
round to the even one of the two ranks. -/
def RoundingInterval.ofRank (rank : Nat) : RoundingInterval :=
  let here := unitsOfRank rank
  { lower := unitsOfRank (rank - 1) + here
    middle := 2 * here
    upper := here + unitsOfRank (rank + 1)
    closed := rank % 2 == 0 }

/-- Whether `num / den` half units lie in the interval. -/
def RoundingInterval.contains (interval : RoundingInterval) (num den : Nat) : Bool :=
  if interval.closed then interval.lower * den ≤ num && num ≤ interval.upper * den
  else interval.lower * den < num && num < interval.upper * den

/-- How many half units `10 ^ exponent` is, as a quotient. -/
def halfUnitsOfPower (exponent : Int) : Nat × Nat :=
  if 0 ≤ exponent then (Nat.pow 10 exponent.toNat * (2 * unitsOfOne), 1)
  else (2 * unitsOfOne, Nat.pow 10 (-exponent).toNat)

/-- The least power of ten above a positive magnitude given in half units. The logarithm to base
two gives it up to two steps. -/
def decimalPoint (middle : Nat) : Int :=
  let guess := (((Nat.log2 middle : Int) - 1075) * 30103).fdiv 100000
  let above (exponent : Int) : Bool :=
    let (num, den) := halfUnitsOfPower exponent
    middle * den < num
  if above guess then guess
  else if above (guess + 1) then guess + 1
  else guess + 2

/-- The grid points of step `10 ^ exponent` next to the middle of the interval that lie in it,
the nearer one if both do, the even one if they are equally near. -/
def gridPoint? (interval : RoundingInterval) (exponent : Int) : Option Nat :=
  let (num, den) := halfUnitsOfPower exponent
  let below := interval.middle * den / num
  let fits (n : Nat) : Bool := interval.contains (n * num) den
  let twice := 2 * (interval.middle * den % num)
  match fits below, fits (below + 1) with
  | true, true =>
    if twice < num then some below
    else if num < twice then some (below + 1)
    else some (below + below % 2)
  | true, false => some below
  | false, true => some (below + 1)
  | false, false => none

/-- The first grid with a point in the interval, from the grid of `count` digits on. -/
def firstGridPoint (interval : RoundingInterval) (point : Int) : Nat → Nat → Nat × Int
  | 0, count => (interval.middle, point - count)
  | fuel + 1, count =>
    match gridPoint? interval (point - count) with
    | some n => (n, point - count)
    | none => firstGridPoint interval point fuel (count + 1)

/-- The shortest decimal that rounds to the magnitude of a rank; seventeen digits always do. -/
def shortest (negative : Bool) (rank : Nat) : Decimal :=
  if rank = 0 then ⟨negative, 0, 0⟩
  else
    let interval := RoundingInterval.ofRank rank
    let (coefficient, exponent) := firstGridPoint interval (decimalPoint interval.middle) 17 1
    let (coefficient, exponent) := stripZeros 20 coefficient exponent
    ⟨negative, coefficient, exponent⟩

end SparkLog.Decimal
