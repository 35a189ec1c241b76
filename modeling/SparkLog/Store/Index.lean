import SparkLog.Number.Total
import SparkLog.Distinct
import SparkLog.Store.Basic

/-!
# Indexes over a store

How tasks, stages, jobs and queries hang together: a task belongs to a stage, a stage to the jobs
that list it, a job to its query. A stage counts as known if some attempt of it was submitted.
-/

namespace SparkLog.Store

/-- The jobs that list a stage, by stage, in order of arrival. -/
def jobsOfStages (store : Store) : Keyed Int (List Int) :=
  store.jobs.values.foldl
    (fun table job =>
      job.stages.foldl (fun table stage => table.alter stage [] (· ++ [job.id])) table)
    .empty

/-- The distinct queries of jobs. -/
def queriesOfJobs (store : Store) (jobs : List Int) : List Int :=
  distinct (jobs.filterMap fun job => (store.jobs.find? job).bind Job.query)

/-- The distinct queries of a stage, by stage; stages without a query are left out. -/
def queriesOfStages (store : Store) : Keyed Int (List Int) :=
  ⟨(store.jobsOfStages.entries.map fun (stage, jobs) => (stage, store.queriesOfJobs jobs)).filter
    fun entry => !entry.2.isEmpty⟩

/-- Whether some attempt of a stage was submitted. -/
def knowsStage (store : Store) (stage : Int) : Bool :=
  store.stages.keys.any fun key => key.stage.agrees (.int stage)

/-- The pairs of a recorded query and a known stage that belongs to it. -/
def queryStagePairs (store : Store) : List (Int × Int) :=
  (store.queriesOfStages.entries.filter fun entry => store.knowsStage entry.1).flatMap
    fun (stage, queries) =>
      (queries.filter store.queries.has).map fun query => (query, stage)

/-- The pairs of a job and a known stage that it lists. -/
def jobStagePairs (store : Store) : List (Int × Int) :=
  store.jobs.values.flatMap fun job =>
    (job.stages.filter store.knowsStage).map fun stage => (job.id, stage)

/-- The times of the attempts of a stage, added up: processor time and run time. -/
def stageTimes (store : Store) (stage : Int) : Int × Int :=
  let attempts := (store.stages.entries.filter fun entry => entry.1.stage.agrees (.int stage)).map
    Prod.snd
  (total (attempts.map Stage.cpuTime), total (attempts.map Stage.runTime))

/-- The processor time and the run time of every query with a known stage. -/
def queryTimes (store : Store) : Keyed Int (Int × Int) :=
  store.queryStagePairs.foldl
    (fun table (query, stage) =>
      let times := store.stageTimes stage
      table.alter query (0, 0) fun (cpu, run) => (cpu + times.1, run + times.2))
    .empty

/-- The greater of two durations that may be unknown. -/
def longer : Option Int → Option Int → Option Int
  | none, other => other
  | some a, some b => if a < b then some b else some a
  | some a, none => some a

/-- The longest duration of the attempts of every submitted stage, by stage. -/
def stageDurations (store : Store) : List (Scalar × Option Int) :=
  (store.stages.entries.foldl
    (fun table (key, stage) =>
      let longest := ((table.findBy? Scalar.agrees key.stage).getD none)
      table.insertBy Scalar.agrees key.stage (longer longest stage.duration))
    Keyed.empty).entries

/-- Offer a value to a table of largest values. -/
def offer (table : Keyed (Int × Int) Int) (key : Int × Int) (value : Int) : Keyed (Int × Int) Int :=
  match table.find? key with
  | some largest => if largest < value then table.insert key value else table
  | none => table.insert key value

/-- The largest value of every accumulator in every query: over the updates of the driver, and
over what tasks and stages of the query reported. -/
def largestValues (store : Store) : Keyed (Int × Int) Int :=
  let queries := store.queriesOfStages
  let fromDriver := store.driverUpdates.foldl
    (fun table update => offer table (update.query, update.accumulator) update.value) Keyed.empty
  store.accumulables.foldl
    (fun table accumulable =>
      match accumulable.value with
      | none => table
      | some value =>
        (((queries.find? accumulable.stage).getD []).filter store.queries.has).foldl
          (fun table query => offer table (query, accumulable.accumulator) value) table)
    fromDriver

/-- How many records of some families there are. -/
def summary (store : Store) : List (String × Nat) :=
  [ ("executors", store.executors.size), ("jobs", store.jobs.size),
    ("stages", store.stages.size), ("tasks", store.tasks.length),
    ("sql_executions", store.queries.size), ("properties", store.properties.size),
    ("other_events", store.others.length) ]

end SparkLog.Store
