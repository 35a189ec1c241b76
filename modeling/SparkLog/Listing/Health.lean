import SparkLog.Store.Index
import SparkLog.Settings
import SparkLog.Record.Order
import SparkLog.Order
import SparkLog.Table.Basic
import SparkLog.Text.Excerpt
import SparkLog.Metrics.Aggregate

/-!
# Health of an application

What failed and what is out of proportion: failed tasks, stages and jobs, removed executors and
block managers, plan nodes that cannot run accelerated, and tasks that read far more shuffled data
than the rest of their stage. Reasons are cut to a width; the store keeps them whole.
-/

namespace SparkLog.Listing

/-- The name of a column of reasons, which tells their width. -/
def reasonColumn (settings : Settings) (name : String) : String :=
  name ++ "_first" ++ Decimal.intText settings.reasonWidth ++ "char"

/-- A reason cut to the width of its column. -/
def reasonCell (settings : Settings) (reason : String) : Cell :=
  .text (Text.excerpt reason settings.reasonWidth)

/-- The tasks that did not end well. -/
def failedTasks (store : Store) (settings : Settings) : Table :=
  let failed := sortByKeys (fun t : Task => [t.stage, t.stageAttempt, t.id, t.attempt])
    (store.tasks.filter fun task => !task.successful)
  Table.ofRowsOr
    ["stageId", "stageAttemptId", "taskId", "attempt", reasonColumn settings "endReason"]
    "No Failed Tasks Found!" <|
    failed.map fun t =>
      [.int t.stage, .int t.stageAttempt, .int t.id, .int t.attempt,
        reasonCell settings t.reason]

/-- The stage attempts with a failure reason. -/
def failedStages (store : Store) (settings : Settings) : Table :=
  let failed := sortByKeys (fun s : Stage => [s.id, s.attempt])
    (store.stages.values.filter fun stage => stage.failure.any (· != ""))
  Table.ofRowsOr
    ["stageId", "attemptId", "name", "numTasks", reasonColumn settings "failureReason"]
    "No Failed Stages Found!" <|
    failed.map fun s =>
      [.int s.id, .int s.attempt, .text s.name, .int s.tasks,
        .ofOption (reasonCell settings) s.failure]

/-- The jobs that ended with another result than success. -/
def failedJobs (store : Store) (settings : Settings) : Table :=
  let failed := sortByKeys (fun j : Job => [j.id])
    (store.jobs.values.filter fun job => job.result.any (· != Job.success))
  Table.ofRowsOr ["jobID", "jobResult", reasonColumn settings "failedReason"]
    "No Failed Jobs Found!" <|
    failed.map fun j =>
      [.int j.id, .ofOption .text j.result, .ofOption (reasonCell settings) j.failure]

/-- The block managers that were removed. -/
def removedBlockManagers (store : Store) : Table :=
  let removed := sortByExecutor (fun r : BlockManagerRemoval => ExecutorRank.ofText r.executor)
    store.blockManagerRemovals
  Table.ofRowsOr ["executorID", "time"] "No Removed BlockManagers Found!" <|
    removed.map fun r => [.text r.executor, .int r.time]

/-- The executors that were removed. -/
def removedExecutors (store : Store) (settings : Settings) : Table :=
  let removed := sortByExecutor (fun r : ExecutorRemoval => ExecutorRank.ofText r.executor)
    store.executorRemovals
  Table.ofRowsOr ["executorID", "time", reasonColumn settings "reason"]
    "No Removed Executors Found!" <|
    removed.map fun r => [.text r.executor, .int r.time, reasonCell settings r.reason]

/-- The plan nodes that cannot run accelerated. -/
def unsupportedNodes (store : Store) (settings : Settings) : Table :=
  Table.ofRowsOr ["sqlID", "nodeID", "nodeName", reasonColumn settings "nodeDesc"]
    "No Unsupported SQL Ops Found!" <|
    store.unsupported.map fun n =>
      [.int n.query, .int n.node, .text n.name, reasonCell settings n.description]

/-- Bytes in a megabyte. -/
def megabyte : Int := 1024 * 1024

/-- The tasks of every stage attempt, by stage and attempt in increasing order. -/
def tasksByAttempt (store : Store) : List ((Int × Int) × List Task) :=
  let table : Keyed (Int × Int) (List Task) := store.tasks.foldl
    (fun table task => table.alter (task.stage, task.stageAttempt) [] (· ++ [task])) .empty
  sortByKeys (fun entry => [entry.1.1, entry.1.2]) table.entries

/-- Whether a task reads more than a factor times the mean of its stage attempt. Both sides are
multiplied by the number of tasks, so that the task's side stays an integer. -/
def isSkewed (factor : Binary64) (count : Nat) (total : Int) (task : Task) :
    Except Failure Bool := do
  let total ← Payload.Number.toBinary64 (.int total)
  let limit := Binary64.mul factor total
  return limit.compareInt? (task.metrics.totalBytes * count) == some .lt

/-- A size in megabytes, rounded to two places. -/
def megabytes (bytes : Payload) : Except Failure Cell := do
  let size ← bytes.divide (.int megabyte)
  Cell.float <$> Metrics.figure (Decimal.roundFloat? size 2)

/-- The rows of the skewed tasks of a stage attempt. -/
def skewRows (settings : Settings) (index : Int) (tasks : List Task) :
    Except Failure (List (List Cell)) := do
  let bytes := total (tasks.map fun task => task.metrics.totalBytes)
  if bytes = 0 then
    return []
  let mean ← Payload.divideInts bytes tasks.length
  let rows ← (sortByKeys (fun t : Task => [t.id, t.attempt]) tasks).mapM fun task => do
    if ← isSkewed settings.skewFactor tasks.length bytes task then
      let size ← megabytes (.int task.metrics.totalBytes)
      let average ← megabytes (.float mean)
      return [[.int index, .int task.stage, .int task.stageAttempt, .int task.id,
        .int task.attempt, size, average]]
    else return []
  return rows.flatten

/-- The tasks that read more than a factor times the mean of their stage attempt. -/
def shuffleSkew (store : Store) (settings : Settings) (index : Int) : Except Failure Table := do
  let rows ← (tasksByAttempt store).mapM fun entry => skewRows settings index entry.2
  return Table.ofRowsOr ["appIndex", "stageId", "stageAttemptId", "taskId", "attempt",
    "taskShuffleReadMB", "avgShuffleReadMB"] "No Shuffle Skew Found!" rows.flatten

end SparkLog.Listing
