import SparkLog.Failure

/-!
# Changes that may be stopped

A value is changed step by step. A failure stops the change, and what was changed before it stays.
-/

namespace SparkLog

/-- A value after a change, and what stopped the change, if anything did. -/
abbrev Changed (α : Type) := α × Option Failure

variable {α β κ : Type}

namespace Changed

/-- Go on with the changed value, unless the change was stopped. -/
def andThen (changed : Changed α) (next : α → Changed α) : Changed α :=
  match changed with
  | (value, none) => next value
  | (value, some failure) => (value, some failure)

/-- Change a value by items one after the other, up to the first that stops the change. -/
def fold (step : α → β → Changed α) (value : α) : List β → Changed α
  | [] => (value, none)
  | item :: rest =>
    match step value item with
    | (value, none) => fold step value rest
    | (value, some failure) => (value, some failure)

/-- The changed value, or the value as it was with the failure. -/
def ofResult (value : α) : Except Failure α → Changed α
  | .ok changed => (changed, none)
  | .error failure => (value, some failure)

end Changed

/-- Change the values of entries one after the other, up to the first change that is stopped. -/
def changeEntries (change : κ → α → Changed α) : List (κ × α) → Changed (List (κ × α))
  | [] => ([], none)
  | (key, value) :: rest =>
    match change key value with
    | (value, some failure) => ((key, value) :: rest, some failure)
    | (value, none) =>
      let (rest, failure) := changeEntries change rest
      ((key, value) :: rest, failure)

end SparkLog
