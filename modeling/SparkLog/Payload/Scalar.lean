import SparkLog.Payload.Basic

/-!
# Scalars and equality by value

A stage or a task is looked up by identifiers as the log writes them, so two spellings of one
number have to be the same key: true, one and one point zero agree, a number and its text do not.
Every scalar has a canonical spelling, and two scalars agree exactly when their canonical
spellings are equal.
-/

namespace SparkLog

/-- A payload that can be part of a key. -/
inductive Scalar where
  | null
  | bool (value : Bool)
  | int (value : Int)
  | float (value : Binary64)
  | text (value : String)
  deriving DecidableEq, Inhabited

namespace Scalar

/-- The scalar as a payload. -/
def toPayload : Scalar → Payload
  | .null => .null
  | .bool b => .bool b
  | .int n => .int n
  | .float x => .float x
  | .text s => .text s

/-- The scalar of a payload; a list or an object is none. -/
def ofPayload : Payload → Except Failure Scalar
  | .null => .ok .null
  | .bool b => .ok (.bool b)
  | .int n => .ok (.int n)
  | .float x => .ok (.float x)
  | .text s => .ok (.text s)
  | .list _ => .error (.notAKey .list)
  | .object _ => .error (.notAKey .object)

/-- The canonical spelling: a truth value or a whole floating-point number as an integer. -/
def canonical : Scalar → Scalar
  | .bool b => .int (if b then 1 else 0)
  | .float x =>
    match x.toInt? with
    | some n => .int n
    | none => .float x
  | other => other

/-- Whether two scalars are the same value. -/
def agrees (a b : Scalar) : Bool :=
  decide (a.canonical = b.canonical)

end Scalar

namespace Payload

/-- Put a field in its place among fields sorted by name, behind those of the same name. -/
def insertField (field : String × Payload) : Fields → Fields
  | [] => [field]
  | other :: rest =>
    if field.1 < other.1 then field :: other :: rest else other :: insertField field rest

mutual

/-- The canonical spelling of a payload: canonical numbers, and fields sorted by name. -/
def canonical : Payload → Payload
  | .bool b => .int (if b then 1 else 0)
  | .float x =>
    match x.toInt? with
    | some n => .int n
    | none => .float x
  | .list items => .list (canonicalItems items)
  | .object fields => .object (canonicalFields fields)
  | other => other

/-- The canonical spellings of the items of a list. -/
def canonicalItems : List Payload → List Payload
  | [] => []
  | p :: rest => canonical p :: canonicalItems rest

/-- The canonical spellings of fields, sorted by name. -/
def canonicalFields : List (String × Payload) → List (String × Payload)
  | [] => []
  | (key, p) :: rest => insertField (key, canonical p) (canonicalFields rest)

end

/-- Whether two payloads are the same value, whatever the spelling of numbers and the order of
fields. -/
def agrees (a b : Payload) : Bool :=
  decide (a.canonical = b.canonical)

end Payload

end SparkLog
