import SparkLog.Metrics.Aggregate
import SparkLog.Store.Index

/-!
# Metric tables

Task metrics rolled up per job, per stage and per query, over the tasks of known stages. A task
counts once in every job and every query that its stage belongs to.
-/

namespace SparkLog.Metrics

/-- The distinct integers of a list in increasing order. -/
def increasing (items : List Int) : List Int :=
  (items.mergeSort (· ≤ ·)).eraseReps

/-- The tasks of a table that belong to known stages. -/
def knownTasks (store : Store) (table : List Task) : List Task :=
  table.filter fun task => store.knowsStage task.stage

/-- The groups of tasks that share an owner, by owner in increasing order: a task is in the group
of every owner that is paired with its stage. -/
def groups (pairs : List (Int × Int)) (tasks : List Task) : List (Int × List Task) :=
  let members (owner : Int) : List Task :=
    (pairs.filter fun pair => pair.1 == owner).flatMap fun (_, stage) =>
      tasks.filter fun task => task.stage == stage
  ((increasing (pairs.map Prod.fst)).map fun owner => (owner, members owner)).filter
    fun entry => !entry.2.isEmpty

/-- The durations of all owners as a column, and the cell of each owner in it. -/
def durationCells (owners : List (Scalar × Option Int)) : Scalar → Cell :=
  let cells := Column.settle (owners.map fun owner => Cell.ofOption .int owner.2)
  let table := (owners.map Prod.fst).zip cells
  fun owner =>
    match table.find? fun entry => entry.1.agrees owner with
    | some (_, cell) => cell
    | none => .float .nan

/-- The columns of metrics per job and per stage. -/
def ownerColumns : List String :=
  ["appIndex", "ID", "numTasks", "Duration"] ++ columnNames

/-- The rows of metrics per owner, named by kind and identifier. -/
def ownerRows (index : Int) (kind : String) (durations : List (Scalar × Option Int))
    (table : List Task) (groups : List (Int × List Task)) : Except Failure (List (List Cell)) := do
  let rolled ← groups.mapM fun (_, group) => aggregateRow table group
  return (groups.zip rolled).map fun ((owner, group), row) =>
    [.int index, .text (kind ++ "_" ++ Decimal.intText owner), .int group.length,
      durationCells durations (.int owner)] ++ row

/-- Metrics per job. -/
def jobTable (store : Store) (index : Int) (table : List Task) : Except Failure Table := do
  let groups := groups store.jobStagePairs (knownTasks store table)
  let durations := store.jobs.values.map fun job => (Scalar.int job.id, job.duration)
  if groups.isEmpty then
    return .noData ownerColumns "No Job Metrics Found!"
  let rows ← ownerRows index "job" durations table groups
  return { columns := ownerColumns, rows, message := none }

/-- Metrics per stage. -/
def stageTable (store : Store) (index : Int) (table : List Task) : Except Failure Table := do
  let tasks := knownTasks store table
  let stages := increasing (tasks.map Task.stage)
  let groups := groups (stages.map fun stage => (stage, stage)) tasks
  if groups.isEmpty then
    return .noData ownerColumns "No Stage Metrics Found!"
  let rows ← ownerRows index "stage" store.stageDurations table groups
  return { columns := ownerColumns, rows, message := none }

/-- Metrics per job above metrics per stage. -/
def jobAndStageTable (store : Store) (index : Int) (table : List Task) :
    Except Failure Table := do
  let jobs ← jobTable store index table
  let stages ← stageTable store index table
  let tables := [jobs, stages].filter (!·.isEmpty)
  if tables.isEmpty then
    return .noData ownerColumns "No Job/Stage Metrics Found!"
  return Table.concat ownerColumns tables

/-- The columns of metrics per query. -/
def queryColumns : List String :=
  ["appIndex", "appID", "sqlID", "description", "numTasks", "Duration", "executorCPUTime",
    "executorRunTime", "executorCPURatio"] ++ columnNames

/-- The row of a query with its tasks. -/
def queryRow (store : Store) (index : Int) (table : List Task) (id : Int) (group : List Task) :
    Except Failure (List Cell) := do
  let row ← aggregateRow table group
  let cpuTime := metricSum table group .cpuTime
  let runTime := metricSum table group .runTime
  let share ← cpuShare (.int cpuTime) (.int runTime)
  let query := store.queries.find? id
  return [.int index, .text store.applicationId, .int id,
    .ofOption (fun query => .text query.description) query, .int group.length,
    .ofOption .int (query.bind Query.duration), .int cpuTime, .int runTime,
    .ofOption .float share] ++ row

/-- Metrics per query. -/
def queryTable (store : Store) (index : Int) (table : List Task) : Except Failure Table := do
  let groups := groups store.queryStagePairs (knownTasks store table)
  let rows ← groups.mapM fun (id, group) => queryRow store index table id group
  return Table.ofRowsOr queryColumns "No SQL Metrics Found!" rows

/-- The pairs of a query and a stage that belongs to it. -/
def pairTable (store : Store) : Table :=
  Table.ofRows ["sql_id", "stage_id"]
    (store.queryStagePairs.map fun (query, stage) => [.int query, .int stage])

end SparkLog.Metrics
