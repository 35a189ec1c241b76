import SparkLog.Payload.Basic
import SparkLog.Decimal.Numeral

/-!
# Arithmetic on payloads

Times and sizes are combined as the log holds them, before they are read as fields of a record.
A truth value counts as zero or one, an integer beside a floating-point number is converted, and
texts and lists are joined by a sum. Everything else fails with its cause.
-/

namespace SparkLog.Payload

/-- A payload that takes part in arithmetic. -/
inductive Number where
  | int (value : Int)
  | float (value : Binary64)

/-- The number that a payload is, if it is one. -/
def number? : Payload → Option Number
  | .bool b => some (.int (if b then 1 else 0))
  | .int n => some (.int n)
  | .float x => some (.float x)
  | _ => none

/-- A number as a floating-point number. -/
def Number.toBinary64 : Number → Except Failure Binary64
  | .int n => (Binary64.ofInt? n).elim (.error .integerTooLarge) .ok
  | .float x => .ok x

/-- Combine two numbers: as integers if both are, as floating-point numbers otherwise. -/
def Number.combine (ints : Int → Int → Int) (floats : Binary64 → Binary64 → Binary64) :
    Number → Number → Except Failure Payload
  | .int a, .int b => .ok (.int (ints a b))
  | a, b => do
    let x ← a.toBinary64
    let y ← b.toBinary64
    return .float (floats x y)

/-- The sum of two payloads. -/
def plus (a b : Payload) : Except Failure Payload :=
  match a.number?, b.number? with
  | some x, some y => x.combine (· + ·) Binary64.add y
  | _, _ =>
    match a, b with
    | .text s, .text t => .ok (.text (s ++ t))
    | .list xs, .list ys => .ok (.list (xs ++ ys))
    | .text _, other => .error (.concatenation .text other.shape)
    | .list _, other => .error (.concatenation .list other.shape)
    | _, _ => .error (.operands .plus a.shape b.shape)

/-- The difference of two payloads. -/
def minus (a b : Payload) : Except Failure Payload :=
  match a.number?, b.number? with
  | some x, some y => x.combine (· - ·) Binary64.sub y
  | _, _ => .error (.operands .minus a.shape b.shape)

/-- The quotient of two integers, rounded once. -/
def divideInts (a b : Int) : Except Failure Binary64 :=
  (Binary64.ofQuotient a b).finite?.elim (.error .quotientTooLarge) .ok

/-- The quotient of two numbers. -/
def Number.divide : Number → Number → Except Failure Binary64
  | .int a, .int b => divideInts a b
  | a, b => do
    let x ← a.toBinary64
    let y ← b.toBinary64
    return Binary64.div x y

/-- The quotient of two payloads, the second of which is not zero. -/
def divide (a b : Payload) : Except Failure Binary64 :=
  match a.number?, b.number? with
  | some x, some y => x.divide y
  | _, _ => .error (.operands .divide a.shape b.shape)

/-- The floored quotient of a payload by a positive integer. -/
def floorDivide (a : Payload) (divisor : Nat) : Except Failure Payload :=
  match a.number? with
  | some (.int n) => .ok (.int (n.fdiv divisor))
  | some (.float x) => .ok (.float (x.floorDiv (Binary64.ofRatio divisor 1)))
  | none => .error (.operands .floorDivide a.shape .int)

/-- A payload read as an integer: numbers lose their fraction, texts are numerals. -/
def toInteger : Payload → Except Failure Int
  | .bool b => .ok (if b then 1 else 0)
  | .int n => .ok n
  | .float .nan => .error .nanToInteger
  | .float x =>
    match x.truncate? with
    | some n => .ok n
    | none => .error .infinityToInteger
  | .text s =>
    match Decimal.readInteger s with
    | .number n => .ok n
    | .tooLong digits => .error (.tooManyDigits digits)
    | .noInteger => .error (.notAnInteger s)
  | other => .error (.notNumeric other.shape)

end SparkLog.Payload
