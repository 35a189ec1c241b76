import SparkLog.Number.Binary64
import SparkLog.Decimal.Basic
import SparkLog.Text.Blank
import SparkLog.Text.Digit

/-!
# Numerals

Reading numbers from text. Digits may be grouped by single underscores; which digits, which
padding and which further notation are allowed depends on the kind of numeral. An integer is not
read from more digits than a limit.
-/

namespace SparkLog.Decimal

open Text

/-- Read digits, most significant first, with single underscores between digits. The answer is
the value of the digits, their count and what follows them; it is none without a digit or with
an underscore that stands elsewhere. -/
def readDigits? (digit? : Char → Option Nat) :
    List Char → Nat → Nat → Option (Nat × Nat × List Char)
  | [], value, count => if count = 0 then none else some (value, count, [])
  | c :: rest, value, count =>
    match digit? c with
    | some d => readDigits? digit? rest (10 * value + d) (count + 1)
    | none =>
      if count = 0 then none
      else if c = '_' then
        match rest with
        | next :: after =>
          match digit? next with
          | some d => readDigits? digit? after (10 * value + d) (count + 1)
          | none => none
        | [] => none
      else some (value, count, c :: rest)

/-- Take an optional sign off. -/
def readSign : List Char → Bool × List Char
  | '-' :: rest => (true, rest)
  | '+' :: rest => (false, rest)
  | rest => (false, rest)

/-- The integer of a sign and a magnitude. -/
def signed (negative : Bool) (magnitude : Nat) : Int :=
  if negative then -(magnitude : Int) else (magnitude : Int)

/-- What a text is where an integer is expected. -/
inductive IntegerReading where
  | number (value : Int)
  | tooLong (digits : Nat)
  | noInteger

/-- Read an integer: white space around a sign and digits of any script. Digits beyond the limit
are counted with leading zeros, and refused whatever follows them. -/
def readInteger (text : String) : IntegerReading :=
  let (negative, body) := readSign (strip isWhiteSpace text.toList)
  match readDigits? digitValue? body 0 0 with
  | some (value, count, rest) =>
    if digitLimit < count then .tooLong count
    else if rest.isEmpty then .number (signed negative value)
    else .noInteger
  | none => .noInteger

/-- The integer that a text is, if it is one. -/
def integer? (text : String) : Option Int :=
  match readInteger text with
  | .number n => some n
  | _ => none

/-- Whether only the digit zero follows, at least once. -/
def onlyZeros (cs : List Char) : Bool :=
  !cs.isEmpty && cs.all (· == '0')

/-- The integer of a sign and a magnitude, if it can be written with as many characters as the limit
has digits. -/
def fitting? (negative : Bool) (magnitude : Nat) : Option Int :=
  if (intChars (signed negative magnitude)).length ≤ digitLimit then
    some (signed negative magnitude)
  else none

/-- An integer in a field of a record: padding, a sign, the digits `0` to `9`, and possibly a
point with zeros behind it. -/
def fieldInteger? (text : String) : Option Int :=
  let (negative, body) := readSign (strip isWhiteSpace text.toList)
  match readDigits? asciiDigitValue? body 0 0 with
  | some (value, _, []) => fitting? negative value
  | some (value, _, '.' :: rest) => if onlyZeros rest then fitting? negative value else none
  | _ => none

/-- An optional exponent up to the end of the numeral. -/
def readExponent? : List Char → Option Int
  | [] => some 0
  | c :: rest =>
    if c = 'e' ∨ c = 'E' then
      let (negative, body) := readSign rest
      match readDigits? digitValue? body 0 0 with
      | some (value, _, []) => some (signed negative value)
      | _ => none
    else none

/-- An unsigned decimal numeral: digits with at most one point, and an optional exponent. The
answer is its coefficient and its exponent. -/
def readUnsigned? (body : List Char) : Option (Nat × Int) :=
  match body with
  | '.' :: rest =>
    match readDigits? digitValue? rest 0 0 with
    | some (value, count, rest) => (readExponent? rest).map fun e => (value, e - count)
    | none => none
  | _ =>
    match readDigits? digitValue? body 0 0 with
    | some (value, _, '.' :: rest) =>
      match rest with
      | next :: _ =>
        if (digitValue? next).isSome then
          match readDigits? digitValue? rest value 0 with
          | some (value, count, rest) => (readExponent? rest).map fun e => (value, e - count)
          | none => none
        else (readExponent? rest).map fun e => (value, e)
      | [] => some (value, 0)
    | some (value, _, rest) => (readExponent? rest).map fun e => (value, e)
    | none => none

/-- The letters `A` to `Z` as small letters; other characters stay. -/
def lowerAscii (cs : List Char) : String :=
  String.ofList (cs.map Char.toLower)

/-- A floating-point number in a field of a record: white space around a sign and a decimal numeral
or the name of an infinity or of no number. -/
def fieldFloat? (text : String) : Option Binary64 :=
  let (negative, body) := readSign (strip isWhiteSpace text.toList)
  match lowerAscii body with
  | "inf" | "infinity" => some (.infinite negative)
  | "nan" => some .nan
  | _ => (readUnsigned? body).map fun (coefficient, exponent) =>
      Binary64.ofDecimal negative coefficient exponent

/-- What a decimal numeral denotes. -/
inductive Reading where
  | number (value : Decimal)
  | infinity
  | quietNan

/-- Whether there is a decimal of a coefficient and an exponent: its first digit stands for
`10 ^ 999999999999999999` at most, its last one for `10 ^ -1999999999999999997` at least. -/
def isWithinRange (coefficient : Nat) (exponent : Int) : Bool :=
  -1999999999999999997 ≤ exponent && exponent + digitCount coefficient ≤ 1000000000000000000

/-- A decimal numeral in free text: padding, a sign, digits and point with underscores anywhere,
an exponent, or the name of an infinity or of no number, which may carry digits. A numeral that is
past the range of decimals denotes nothing. -/
def reading? (text : String) : Option Reading :=
  let (negative, body) := readSign ((strip isBlank text.toList).filter (· != '_'))
  let lower := lowerAscii body
  if lower = "inf" ∨ lower = "infinity" then some .infinity
  else if lower.startsWith "nan" then
    if (body.drop 3).all fun c => (digitValue? c).isSome then some .quietNan else none
  else (readUnsigned? body).bind fun (coefficient, exponent) =>
    if isWithinRange coefficient exponent then some (.number ⟨negative, coefficient, exponent⟩)
    else none

end SparkLog.Decimal
