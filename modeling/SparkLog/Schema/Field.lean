import SparkLog.Number.Word
import SparkLog.Schema.Checked
import SparkLog.Payload.Basic
import SparkLog.Decimal.Numeral

/-!
# Fields of records

How payloads are read as fields of declared types. Reading is lenient: truth values, whole
floating-point numbers and numerals are integers, numbers and words are truth values; nothing but
a text is a text. A field is required, optional or has a default, and null fits optional fields
only.
-/

namespace SparkLog.Schema

/-- The integer that a whole floating-point number of less than 64 bits is. -/
def wholeFloat? (x : Binary64) : Option Int :=
  match x.toInt? with
  | some n => if n.natAbs < Word.half then some n else none
  | none => none

/-- Read an integer. -/
def int : Payload → Checked Int
  | .int n => .ok n
  | .bool b => .ok (if b then 1 else 0)
  | .float x => .ofOption (wholeFloat? x)
  | .text s => .ofOption (Decimal.fieldInteger? s)
  | _ => .fault

/-- Read a floating-point number. -/
def float : Payload → Checked Binary64
  | .float x => .ok x
  | .int n => .ofOption (Binary64.ofInt? n)
  | .bool b => .ok (Binary64.ofRatio (if b then 1 else 0) 1)
  | .text s => .ofOption (Decimal.fieldFloat? s)
  | _ => .fault

/-- The words for truth values, in any case. -/
def truthOfWord? (word : String) : Option Bool :=
  match word with
  | "0" | "false" | "f" | "no" | "n" | "off" => some false
  | "1" | "true" | "t" | "yes" | "y" | "on" => some true
  | _ => none

/-- Read a truth value: zero, one, or a word for it. -/
def bool : Payload → Checked Bool
  | .bool b => .ok b
  | .int 0 => .ok false
  | .int 1 => .ok true
  | .float x =>
    match x.toInt? with
    | some 0 => .ok false
    | some 1 => .ok true
    | _ => .fault
  | .text s => .ofOption (truthOfWord? (Decimal.lowerAscii s.toList))
  | _ => .fault

/-- Read a text. -/
def text : Payload → Checked String
  | .text s => .ok s
  | _ => .fault

/-- Read an object, whatever its fields are. -/
def object : Payload → Checked Fields
  | .object fields => .ok fields
  | _ => .fault

/-- Read an object whose fields all fit `check`. -/
def objectOf {α : Type} (check : Payload → Checked α) : Payload → Checked (List (String × α))
  | .object fields => Checked.all (fun (key, p) => (fun a => (key, a)) <$> check p) fields
  | _ => .fault

/-- Read a list whose items all fit `check`. -/
def listOf {α : Type} (check : Payload → Checked α) : Payload → Checked (List α)
  | .list items => Checked.all check items
  | _ => .fault

/-- Read null, or what fits `check`. -/
def optional {α : Type} (check : Payload → Checked α) : Payload → Checked (Option α)
  | .null => .ok none
  | p => some <$> check p

/-- A field that has to be present. -/
def required {α : Type} (fields : Fields) (key : String) (check : Payload → Checked α) :
    Checked α :=
  match fields.get? key with
  | some p => check p
  | none => .fault

/-- A field with a default where it is absent. -/
def withDefault {α : Type} (fields : Fields) (key : String) (default : α)
    (check : Payload → Checked α) : Checked α :=
  match fields.get? key with
  | some p => check p
  | none => .ok default

/-- The value of a record that was checked, or the failure that names the record. -/
def accept {α : Type} (record : String) : Checked α → Except Failure α
  | .ok a => .ok a
  | .faults n => .error (.invalid record n)

end SparkLog.Schema
