import SparkLog.Decimal.Shortest

/-!
# Written numbers

How a number is written in listings and exchange files: the shortest digits that read back, in
positional notation for decimal exponents from -4 to 15, with an exponent otherwise.
-/

namespace SparkLog

namespace Decimal

/-- `count` zeros. -/
def zeros (count : Nat) : List Char :=
  List.replicate count '0'

/-- An exponent after its mark: a sign and at least two digits. -/
def exponentChars (exponent : Int) : List Char :=
  let body := digits exponent.natAbs
  'e' :: (if exponent < 0 then '-' else '+') :: (zeros (2 - body.length) ++ body)

/-- Digits with the point after the first `position` of them, at least one digit on both sides. -/
def positional (body : List Char) (position : Int) : List Char :=
  if position ≤ 0 then '0' :: '.' :: (zeros (-position).toNat ++ body)
  else
    let whole := body.take position.toNat
    let fraction := body.drop position.toNat
    whole ++ zeros (position.toNat - whole.length) ++
      '.' :: (if fraction.isEmpty then ['0'] else fraction)

/-- Digits with an exponent: a point only where more than one digit stands. -/
def scientific (body : List Char) (position : Int) : List Char :=
  let mantissa :=
    match body with
    | first :: second :: rest => first :: '.' :: second :: rest
    | short => short
  mantissa ++ exponentChars (position - 1)

/-- A decimal, positional for decimal exponents from -4 to 15. -/
def chars (d : Decimal) : List Char :=
  let sign := if d.negative then ['-'] else []
  if d.coefficient = 0 then sign ++ ['0', '.', '0']
  else
    let body := digits d.coefficient
    let position := d.exponent + body.length
    if -4 < position ∧ position ≤ 16 then sign ++ positional body position
    else sign ++ scientific body position

end Decimal

namespace Binary64

/-- The text of a number: `nan`, `inf`, or the shortest decimal that reads back. -/
def text : Binary64 → String
  | .nan => "nan"
  | .infinite false => "inf"
  | .infinite true => "-inf"
  | .finite negative rank => String.ofList (Decimal.shortest negative rank).chars

end Binary64

end SparkLog
