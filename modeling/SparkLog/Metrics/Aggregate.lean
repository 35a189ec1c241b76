import SparkLog.Number.Total
import SparkLog.Number.Word
import SparkLog.Record.Task
import SparkLog.Decimal.HalfUp
import SparkLog.Table.Basic

/-!
# Rolling task metrics up

The metrics of a group of tasks as one row: each metric is added, or its largest value taken, or
rolled up in every way, and rounded to one place. Sums wrap around in the integer type of 64 bits
that holds all values of the metric in the task table; averages add with a running compensation.
-/

namespace SparkLog.Metrics

/-- The ways to roll the values of a group up. -/
inductive Aggregation where
  | sum
  | max
  | min
  | average
  deriving DecidableEq, Repr

namespace Aggregation

/-- The name of a way to roll up. -/
def name : Aggregation → String
  | .sum => "sum"
  | .max => "max"
  | .min => "min"
  | .average => "avg"

/-- The ways in which a metric of a mode is rolled up. -/
def ofMode : TaskMetric.Mode → List Aggregation
  | .sum => [.sum]
  | .max => [.max]
  | .all => [.sum, .max, .min, .average]

end Aggregation

/-- Every metric with every way to roll it up, in the order of columns. -/
def aggregations : List (TaskMetric × Aggregation) :=
  TaskMetric.all.flatMap fun metric =>
    (Aggregation.ofMode metric.mode).map fun aggregation => (metric, aggregation)

/-- The name of the column of a rolled-up metric. -/
def columnName (metric : TaskMetric) (aggregation : Aggregation) : String :=
  metric.name ++ "_" ++ aggregation.name

/-- The names of the columns of rolled-up metrics. -/
def columnNames : List String :=
  aggregations.map fun (metric, aggregation) => columnName metric aggregation

/-- The integer types in which sums are formed. -/
inductive SumType where
  | signed
  | unsigned
  | unbounded
  deriving DecidableEq, Repr

/-- The narrowest type that holds all values. -/
def SumType.ofValues (values : List Int) : SumType :=
  if values.all Word.isSigned then .signed
  else if values.all Word.isUnsigned then .unsigned
  else .unbounded

/-- A sum as its type holds it. -/
def SumType.wrap (type : SumType) (sum : Int) : Int :=
  match type with
  | .signed => Word.wrapSigned sum
  | .unsigned => Word.wrapUnsigned sum
  | .unbounded => sum

/-- A running sum and the compensation for what its roundings lost. -/
structure RunningSum where
  sum : Binary64
  compensation : Binary64

/-- Add a value to a running sum. -/
def RunningSum.add (running : RunningSum) (value : Binary64) : RunningSum :=
  let corrected := Binary64.sub value running.compensation
  let sum := Binary64.add running.sum corrected
  let compensation := Binary64.sub (Binary64.sub sum running.sum) corrected
  { sum, compensation := if compensation.isNan then .zero false else compensation }

/-- The average of values. -/
def average (values : List Int) : Binary64 :=
  let running : RunningSum :=
    values.foldl (fun (running : RunningSum) n => running.add (Binary64.ofRatio n 1))
      ⟨.zero false, .zero false⟩
  Binary64.div running.sum (Binary64.ofRatio values.length 1)

/-- A rounded figure, if it has a decimal with few enough digits. -/
def figure (x : Option Binary64) : Except Failure Binary64 :=
  match x with
  | some x => .ok x
  | none => .error .notOnGrid

/-- The values of a group rolled up and rounded to one place. -/
def aggregate (type : SumType) (aggregation : Aggregation) (values : List Int) :
    Except Failure Binary64 :=
  match aggregation with
  | .sum => figure (Decimal.roundInt? (type.wrap (total values)) 1)
  | .max => figure (Decimal.roundInt? (values.max?.getD 0) 1)
  | .min => figure (Decimal.roundInt? (values.min?.getD 0) 1)
  | .average => figure (Decimal.roundFloat? (average values) 1)

/-- The types of the sums of all metrics in a task table. -/
def sumType (table : List Task) (metric : TaskMetric) : SumType :=
  SumType.ofValues (table.map fun task => task.metrics.get metric)

/-- The row of rolled-up metrics of a group of tasks of a table. -/
def aggregateRow (table group : List Task) : Except Failure (List Cell) :=
  aggregations.mapM fun (metric, aggregation) =>
    Cell.float <$>
      aggregate (sumType table metric) aggregation (group.map fun task => task.metrics.get metric)

/-- The sum of a metric over a group of tasks of a table. -/
def metricSum (table group : List Task) (metric : TaskMetric) : Int :=
  (sumType table metric).wrap (total (group.map fun task => task.metrics.get metric))

/-- Processor time as a percentage of run time, rounded to two places; none without run time. -/
def cpuShare (cpuTime runTime : Payload) : Except Failure (Option Binary64) :=
  if runTime.isTruthy then do
    let share ← cpuTime.divide runTime
    some <$> figure (Decimal.roundFloat? (Binary64.mul share (Binary64.ofRatio 100 1)) 2)
  else .ok none

end SparkLog.Metrics
