/-!
# Binary floating point of 64 bits

A finite magnitude is stored as its rank among all finite magnitudes in increasing order, which
is also its bit pattern without the sign. Every finite value is a whole number of units, one unit
being the smallest positive value `2 ^ -1074`, so sums, products, quotients and comparisons are
computed exactly on integers and rounded once, to the nearest value with ties to the even rank.
-/

namespace SparkLog

/-- How many magnitudes a binade holds, which is two to the power 52. -/
def Binary64.binade : Nat := 4503599627370496

/-- How many finite magnitudes there are. -/
def Binary64.rankLimit : Nat := 2047 * Binary64.binade

/-- A floating-point number: a sign and the rank of its magnitude, an infinity, or no number. -/
inductive Binary64 where
  | nan
  | infinite (negative : Bool)
  | finite (negative : Bool) (rank : Fin Binary64.rankLimit)
  deriving DecidableEq, Inhabited

namespace Binary64

/-- How many units the number one holds. -/
def unitsOfOne : Nat := Nat.pow 2 1074

/-- The magnitude of a rank in units: ranks are equally spaced within a binade, and the spacing
doubles from each binade to the next. -/
def unitsOfRank (rank : Nat) : Nat :=
  if rank < binade then rank
  else (binade + rank % binade) * Nat.pow 2 (rank / binade - 1)

/-- The nearest integer to `num / den`, a half going to the even neighbour. -/
def roundHalfEven (num den : Nat) : Nat :=
  let quotient := num / den
  let twice := 2 * (num % den)
  if twice < den then quotient
  else if den < twice then quotient + 1
  else quotient + quotient % 2

/-- The rank whose magnitude is nearest to `num / den` units; it is past `rankLimit` when the
nearest magnitude is infinite. -/
def nearestRank (num den : Nat) : Nat :=
  let shift := Nat.log2 (num / den) - 52
  shift * binade + roundHalfEven num (den * Nat.pow 2 shift)

/-- The number nearest to `num / den` units, with the given sign. -/
def ofUnitRatio (negative : Bool) (num den : Nat) : Binary64 :=
  let rank := nearestRank num den
  if h : rank < rankLimit then .finite negative ⟨rank, h⟩ else .infinite negative

/-- The zero of a sign. -/
def zero (negative : Bool) : Binary64 :=
  .finite negative ⟨0, by decide⟩

/-- The signed magnitude in units of a finite number. -/
def signedUnits (negative : Bool) (rank : Fin rankLimit) : Int :=
  if negative then -(unitsOfRank rank : Int) else (unitsOfRank rank : Int)

/-- The number nearest to a quotient of integers. It is negative if the signs of the two differ,
even where it is zero. -/
def ofQuotient (num den : Int) : Binary64 :=
  ofUnitRatio ((num < 0) != (den < 0)) (unitsOfOne * num.natAbs) den.natAbs

/-- The number nearest to a fraction. -/
def ofRatio (num : Int) (den : Nat) : Binary64 :=
  ofQuotient num den

/-- A number, unless it is infinite or no number. -/
def finite? : Binary64 → Option Binary64
  | .finite negative rank => some (.finite negative rank)
  | _ => none

/-- The number nearest to an integer, unless that is infinite. -/
def ofInt? (n : Int) : Option Binary64 :=
  (ofRatio n 1).finite?

/-- The number nearest to `coefficient * 10 ^ exponent`. Exponents that decide the answer alone
are answered without computing the power. -/
def ofDecimal (negative : Bool) (coefficient : Nat) (exponent : Int) : Binary64 :=
  if coefficient = 0 then zero negative
  else if 400 < exponent then .infinite negative
  else if 0 ≤ exponent then
    ofUnitRatio negative (unitsOfOne * (coefficient * Nat.pow 10 exponent.toNat)) 1
  else if exponent + (Nat.log2 coefficient : Int) < -400 then zero negative
  else ofUnitRatio negative (unitsOfOne * coefficient) (Nat.pow 10 (-exponent).toNat)

/-- Whether the number is no number. -/
def isNan : Binary64 → Bool
  | .nan => true
  | _ => false

/-- Whether the sign is negative; no number has none. -/
def isNegative : Binary64 → Bool
  | .nan => false
  | .infinite negative => negative
  | .finite negative _ => negative

/-- Whether the number is a zero of either sign. -/
def isZero : Binary64 → Bool
  | .finite _ rank => rank.val == 0
  | _ => false

/-- The number with the other sign. -/
def neg : Binary64 → Binary64
  | .nan => .nan
  | .infinite negative => .infinite !negative
  | .finite negative rank => .finite (!negative) rank

/-- The number without its sign. -/
def abs : Binary64 → Binary64
  | .nan => .nan
  | .infinite _ => .infinite false
  | .finite _ rank => .finite false rank

/-- The rounded sum. A sum that is exactly zero is negative only if both terms are. -/
def add : Binary64 → Binary64 → Binary64
  | .nan, _ => .nan
  | _, .nan => .nan
  | .infinite s, .infinite t => if s = t then .infinite s else .nan
  | .infinite s, _ => .infinite s
  | _, .infinite t => .infinite t
  | .finite s a, .finite t b =>
    let sum := signedUnits s a + signedUnits t b
    if sum = 0 then zero (s && t) else ofUnitRatio (sum < 0) sum.natAbs 1

/-- The rounded difference. -/
def sub (x y : Binary64) : Binary64 :=
  add x (neg y)

/-- The rounded product. -/
def mul : Binary64 → Binary64 → Binary64
  | .nan, _ => .nan
  | _, .nan => .nan
  | .infinite s, .infinite t => .infinite (s != t)
  | .infinite s, .finite t b => if b.val = 0 then .nan else .infinite (s != t)
  | .finite s a, .infinite t => if a.val = 0 then .nan else .infinite (s != t)
  | .finite s a, .finite t b => ofUnitRatio (s != t) (unitsOfRank a * unitsOfRank b) unitsOfOne

/-- The rounded quotient. -/
def div : Binary64 → Binary64 → Binary64
  | .nan, _ => .nan
  | _, .nan => .nan
  | .infinite _, .infinite _ => .nan
  | .infinite s, .finite t _ => .infinite (s != t)
  | .finite s _, .infinite t => zero (s != t)
  | .finite s a, .finite t b =>
    if b.val = 0 then (if a.val = 0 then .nan else .infinite (s != t))
    else ofUnitRatio (s != t) (unitsOfOne * unitsOfRank a) (unitsOfRank b)

/-- The integer part, for a finite number. -/
def truncate? : Binary64 → Option Int
  | .finite negative rank => some ((signedUnits negative rank).tdiv unitsOfOne)
  | _ => none

/-- The integer that a finite number equals, if it is one. -/
def toInt? : Binary64 → Option Int
  | .finite negative rank =>
    if unitsOfRank rank % unitsOfOne = 0 then some ((signedUnits negative rank).tdiv unitsOfOne)
    else none
  | _ => none

/-- The largest whole number that is at most a finite number; the sign of a zero stays. -/
def floor : Binary64 → Binary64
  | .finite negative rank =>
    if rank.val = 0 then .finite negative rank
    else
      let whole := (signedUnits negative rank).fdiv unitsOfOne
      if whole = 0 then zero negative else ofRatio whole 1
  | x => x

/-- The remainder of the division that truncates, exact, with the sign of the dividend. -/
def remainder : Binary64 → Binary64 → Binary64
  | .finite s a, .finite _ b =>
    if b.val = 0 then .nan else ofUnitRatio s (unitsOfRank a % unitsOfRank b) 1
  | .finite s a, .infinite _ => .finite s a
  | _, _ => .nan

/-- Comparison; no number is less than, equal to or greater than nothing. -/
def compare? : Binary64 → Binary64 → Option Ordering
  | .nan, _ => none
  | _, .nan => none
  | .infinite s, .infinite t => some (if s = t then .eq else if s then .lt else .gt)
  | .infinite s, _ => some (if s then .lt else .gt)
  | _, .infinite t => some (if t then .gt else .lt)
  | .finite s a, .finite t b => some (compare (signedUnits s a) (signedUnits t b))

/-- Exact comparison with an integer. -/
def compareInt? : Binary64 → Int → Option Ordering
  | .nan, _ => none
  | .infinite s, _ => some (if s then .lt else .gt)
  | .finite s a, n => some (compare (signedUnits s a) (unitsOfOne * n))

/-- Floored quotient: the exact remainder is taken off the dividend, the rest is divided and
brought to the nearest whole number below, and a zero quotient keeps the sign of the division. -/
def floorDiv (x y : Binary64) : Binary64 :=
  let rest := remainder x y
  let quotient := div (sub x rest) y
  let quotient :=
    if !rest.isZero && !rest.isNan && rest.isNegative != y.isNegative then
      sub quotient (ofRatio 1 1)
    else quotient
  if quotient.isZero then zero (x.isNegative != y.isNegative)
  else
    let whole := floor quotient
    if compare? (sub quotient whole) (ofRatio 1 2) = some .gt then add whole (ofRatio 1 1)
    else whole

end Binary64

end SparkLog
