import SparkLog.Payload.Text
import SparkLog.Payload.Arithmetic

/-!
# Order of executors

Executors with a number come first, by their number; all others follow by their text, among them
the driver.
-/

namespace SparkLog

/-- The place of an executor in listings. -/
inductive ExecutorRank where
  | numbered (n : Int)
  | named (text : String)
  deriving DecidableEq

namespace ExecutorRank

/-- The place of an executor whose identifier is a text. -/
def ofText (id : String) : ExecutorRank :=
  match Decimal.integer? id with
  | some n => .numbered n
  | none => .named id

/-- The place of an executor whose identifier is any payload. An infinite identifier has none. -/
def ofPayload (id : Payload) : Except Failure ExecutorRank :=
  match id.toInteger with
  | .ok n => .ok (.numbered n)
  | .error failure => if failure.isSkippable then .ok (.named id.render) else .error failure

/-- Whether one place is not behind another. -/
def le : ExecutorRank → ExecutorRank → Bool
  | .numbered a, .numbered b => a ≤ b
  | .numbered _, .named _ => true
  | .named _, .numbered _ => false
  | .named a, .named b => a ≤ b

end ExecutorRank

/-- Things in the order of their executors; those of equal rank keep their order. -/
def sortByExecutor {α : Type} (rank : α → ExecutorRank) (items : List α) : List α :=
  items.mergeSort fun a b => (rank a).le (rank b)

/-- Identifiers in the order of executors. -/
def sortExecutorIds (ids : List Payload) : Except Failure (List Payload) := do
  let ranked ← ids.mapM fun id => return (← ExecutorRank.ofPayload id, id)
  return (sortByExecutor Prod.fst ranked).map Prod.snd

end SparkLog
