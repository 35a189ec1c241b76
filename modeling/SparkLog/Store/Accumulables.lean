import SparkLog.Record.Basic
import SparkLog.Payload.Arithmetic

/-!
# Accumulables

Tasks and stages report the accumulators that they updated. Only numbers and numerals are values;
an entry without an identifier or a value is left out.
-/

namespace SparkLog

/-- The integer that an accumulable reports: a number without its fraction, or a padded numeral. A
truth value and anything else reports nothing; no number and infinities fail. -/
def accumulatorValue : Payload → Except Failure (Option Int)
  | .int n => .ok (some n)
  | .float x => some <$> Payload.toInteger (.float x)
  | .text s => .ok (Decimal.integer? (String.ofList (Text.strip Text.isBlank s.toList)))
  | _ => .ok none

/-- The accumulable of an entry, if it has an identifier and a value. The identifiers of stage,
attempt and task are as the log writes them. -/
def accumulable? (stage attempt task : Payload) (entry : Payload) :
    Except Failure (Option Accumulable) := do
  let fields ← entry.fields
  let value ← accumulatorValue (Fields.find fields "Value")
  match Fields.find fields "ID", value with
  | .null, _ => return none
  | _, none => return none
  | id, some value =>
    let checked : Checked Accumulable :=
      Accumulable.mk
        <$> Schema.int stage
        <*> Schema.int attempt
        <*> Schema.optional Schema.int task
        <*> Schema.int id
        <*> Schema.optional Schema.text (Fields.find fields "Name")
        <*> pure (some value)
    some <$> Schema.accept "TaskStageAccumRecord" checked

/-- The accumulables of a list of entries; an absent or empty list has none. -/
def accumulables (stage attempt task entries : Payload) : Except Failure (List Accumulable) := do
  if entries.isTruthy then
    let items ← entries.items
    return (← items.mapM (accumulable? stage attempt task)).filterMap id
  return []

end SparkLog
