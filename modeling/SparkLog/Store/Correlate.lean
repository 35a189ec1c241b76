import SparkLog.Number.Total
import SparkLog.Store.Basic
import SparkLog.Elapsed
import SparkLog.Changed

/-!
# Correlation

Every start is paired with its end: ends, durations, results and reasons are filled in, stages get
the times of their tasks, and an application without an observed end gets an estimated one. A
duration past the floating-point range cannot be written; it stops the correlation, and what was
filled in before it stays.
-/

namespace SparkLog

/-- What correlation counts: starts without an end. -/
structure CorrelationCounts where
  jobs : Nat := 0
  stages : Nat := 0
  queries : Nat := 0
  deriving DecidableEq

/-- Write a duration that was filled in, or tell why it cannot be written. -/
def writeDuration {α : Type} (value : α) (duration : Option Int) (write : α → String → α) :
    Changed α :=
  match Elapsed.optionText duration with
  | .ok text => (write value text, none)
  | .error failure => (value, some failure)

namespace Job

/-- Fill in the end of a job. -/
def close (job : Job) (jobEnd : JobEnd) : Changed Job :=
  let job :=
    { job with
      finish := some jobEnd.time
      result := jobEnd.result
      failure := jobEnd.failure
      duration := Elapsed.between job.start (some jobEnd.time) }
  writeDuration job job.duration fun job elapsed => { job with elapsed }

end Job

namespace Stage

/-- Fill in the times of the tasks of a stage attempt. -/
def withTimes (stage : Stage) (runTime cpuTime : Int) : Stage :=
  { stage with runTime, cpuTime }

/-- Fill in the completion of a stage attempt. The time of submission is the one of the completion
where no other is known. -/
def close (stage : Stage) (completion : StageCompletion) : Changed Stage :=
  let submitted := stage.submitted.or completion.submitted
  let stage :=
    { stage with
      submitted
      completed := completion.completed
      failure := completion.failure
      duration := Elapsed.between submitted completion.completed }
  writeDuration stage stage.duration fun stage elapsed => { stage with elapsed }

end Stage

namespace Query

/-- Fill in the end of a query. -/
def close (query : Query) (time : Int) : Changed Query :=
  let query :=
    { query with
      finish := some time
      duration := Elapsed.between (some query.start) (some time) }
  writeDuration query query.duration fun query elapsed => { query with elapsed }

end Query

namespace Application

/-- Fill in the end of the application, observed or estimated. -/
def close (application : Application) (version : String) (accelerated : Bool)
    (observed estimate : Option Int) : Changed Application :=
  let application := { application with version, accelerated }
  let application :=
    match observed, estimate with
    | some time, _ => { application with finish := some time, estimated := false }
    | none, some time => { application with finish := some time, estimated := true }
    | none, none => application
  let application :=
    { application with duration := Elapsed.between (some application.start) application.finish }
  writeDuration application application.duration fun application elapsed =>
    { application with elapsed }

end Application

namespace Store

/-- The sum of a metric over the tasks of a stage attempt, by the key of the attempt. -/
def taskSum (store : Store) (metric : TaskMetric) (key : StageKey) : Int :=
  let tasks := store.tasks.filter fun task => key.agrees (.ofInts task.stage task.stageAttempt)
  total (tasks.map fun task => task.metrics.get metric)

/-- The largest end of a job or a query, if it is positive. -/
def estimatedFinish (store : Store) : Option Int :=
  let ends := store.jobEnds.values.map JobEnd.time ++ store.queryEnds.values
  let latest := (ends.max?).getD 0
  if 0 < latest then some latest else none

/-- Pair jobs with their ends. -/
def correlateJobs (store : Store) : Changed Store :=
  let (entries, failure) := changeEntries
    (fun id job =>
      match store.jobEnds.find? id with
      | some jobEnd => job.close jobEnd
      | none => (job, none))
    store.jobs.entries
  ({ store with jobs := ⟨entries⟩ }, failure)

/-- Pair stage attempts with their tasks and completions. -/
def correlateStages (store : Store) : Changed Store :=
  let (entries, failure) := changeEntries
    (fun key stage =>
      let stage := stage.withTimes (store.taskSum .runTime key) (store.taskSum .cpuTime key)
      match store.completion? key with
      | some completion => stage.close completion
      | none => (stage, none))
    store.stages.entries
  ({ store with stages := ⟨entries⟩ }, failure)

/-- Pair queries with their ends. -/
def correlateQueries (store : Store) : Changed Store :=
  let (entries, failure) := changeEntries
    (fun id query =>
      match store.queryEnds.find? id with
      | some time => query.close time
      | none => (query, none))
    store.queries.entries
  ({ store with queries := ⟨entries⟩ }, failure)

/-- Give the application its end. -/
def correlateApplication (store : Store) : Changed Store :=
  match store.application with
  | none => (store, none)
  | some application =>
    let (application, failure) :=
      application.close store.version store.accelerated store.finish store.estimatedFinish
    ({ store with application := some application }, failure)

/-- Fill in all that follows from pairing starts with ends. -/
def correlate (store : Store) : Changed Store :=
  ((store.correlateJobs.andThen correlateStages).andThen correlateQueries).andThen
    correlateApplication

/-- How many starts have no end. -/
def correlationCounts (store : Store) : CorrelationCounts :=
  { jobs := (store.jobs.keys.filter fun id => !store.jobEnds.has id).length
    stages := (store.stages.keys.filter fun key => (store.completion? key).isNone).length
    queries := (store.queries.keys.filter fun id => !store.queryEnds.has id).length }

end Store

end SparkLog
