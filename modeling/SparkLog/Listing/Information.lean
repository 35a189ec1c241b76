import SparkLog.Metrics.Tables
import SparkLog.Settings
import SparkLog.Record.Order
import SparkLog.Text.PatternReader
import SparkLog.Order

/-!
# Information about an application

Plain listings of what was recorded: the application, its executors, its environment, its jobs,
the largest values of the metrics of its plans, and its queries.
-/

namespace SparkLog.Listing

/-- The application. -/
def applicationInfo (store : Store) (index : Int) : Table :=
  let columns := ["appIndex", "appName", "appId", "sparkUser", "startTime", "endTime", "duration",
    "durationStr", "endDurationEstimated", "sparkVersion", "acceleratedMode"]
  Table.ofRowsOr columns "No Application Information Found!" <|
    store.application.toList.map fun a =>
      [.int index, .text a.name, .text a.id, .text a.user, .int a.start, .ofOption .int a.finish,
        .ofOption .int a.duration, .text a.elapsed, .bool a.estimated, .text a.version,
        .bool a.accelerated]

/-- Executors with their block manager and their resource profile. -/
def executorInfo (store : Store) (index : Int) : Table :=
  let columns := ["appIndex", "executorID", "host", "totalCores", "maxMem", "maxOnHeapMem",
    "maxOffHeapMem", "exec_cpu", "exec_mem", "exec_gpu", "exec_offheap", "task_cpu", "task_gpu"]
  let sorted := sortByExecutor (fun entry => ExecutorRank.ofText entry.1) store.executors.entries
  Table.ofRowsOr columns "No Executor Information Found!" <|
    sorted.map fun (id, executor) =>
      let manager := store.blockManagers.find? id
      let profile := store.profiles.find? executor.profile
      [.int index, .text id, .text executor.host, .int executor.cores,
        .ofOption .int (manager.map BlockManager.memory),
        .ofOption .int (manager.bind BlockManager.onHeap),
        .ofOption .int (manager.bind BlockManager.offHeap),
        .ofOption .float (profile.bind ResourceProfile.executorCores),
        .ofOption .float (profile.bind ResourceProfile.executorMemory),
        .ofOption .float (profile.bind ResourceProfile.executorGpus),
        .ofOption .float (profile.bind ResourceProfile.executorOffHeap),
        .ofOption .float (profile.bind ResourceProfile.taskCores),
        .ofOption .float (profile.bind ResourceProfile.taskGpus)]

/-- The keys and values of the properties of a source. -/
def propertiesOf (store : Store) (source : PropertySource) : List (String × String) :=
  (store.properties.entries.filter fun entry => entry.1.1 == source).map fun entry =>
    (entry.1.2, entry.2.value)

/-- The properties of a source by key, those that a pattern selects if there is one. -/
def properties (store : Store) (index : Int) (sourceName : String) (pattern : Option String) :
    Except Failure Table := do
  let source ←
    match PropertySource.ofName? sourceName with
    | some source => .ok source
    | none => .error (Failure.unknownSource sourceName (PropertySource.all.map PropertySource.name))
  let select : String → Bool ←
    match pattern with
    | none | some "" => pure fun _ => true
    | some text => do
      let pattern ← Text.Pattern.read text
      pure pattern.matchesStart
  let selected := (propertiesOf store source).filter fun entry => select entry.1
  let sorted := selected.mergeSort fun a b => a.1 ≤ b.1
  return Table.ofRowsOr ["key", "value_app" ++ Decimal.intText index]
    ("No " ++ sourceName ++ " properties Found!")
    (sorted.map fun (key, value) => [.text key, .text value])

/-- The properties of the accelerator that were set explicitly. -/
def acceleratorProperties (store : Store) (index : Int) : Except Failure Table :=
  properties store index "spark" (some "spark\\.rapids")

/-- The patterns of the names of accelerator jars. -/
def jarPatterns : List String :=
  [".*rapids-4-spark.*jar", ".*cudf.*jar"]

/-- The accelerator jars on the class path of an accelerated run, by pattern. -/
def acceleratorJars (store : Store) (index : Int) : Except Failure Table := do
  let classpath := if store.accelerated then propertiesOf store .classpath else []
  let patterns ← jarPatterns.mapM Text.Pattern.read
  let jars := patterns.flatMap fun pattern =>
    classpath.filter fun entry => pattern.matchesAll entry.1
  return Table.ofRowsOr ["appIndex", "jar"] "No Accelerator Jars Found!"
    (jars.map fun entry => [.int index, .text entry.1])

/-- Jobs with their stages and their query. -/
def jobInfo (store : Store) (index : Int) : Table :=
  let sorted := sortByKeys (fun job => [job.id]) store.jobs.values
  Table.ofRowsOr ["appIndex", "jobID", "stageIds", "sqlID"] "No Job Information Found!" <|
    sorted.map fun job =>
      [.int index, .int job.id, .list (job.stages.map .int), .ofOption .int job.query]

/-- A row of the metrics of plans: the largest value of a metric of a node. -/
structure PlanMetricRow where
  query : Int
  node : Nat
  nodeName : String
  accumulator : Int
  name : String
  type : String
  value : Int
  deriving DecidableEq

namespace PlanMetricRow

/-- The order of rows: by query, node, name of the node, accumulator, name and type. -/
def order (a b : PlanMetricRow) : Ordering :=
  (compare a.query b.query).then <| (compare a.node b.node).then <|
    (compare a.nodeName b.nodeName).then <| (compare a.accumulator b.accumulator).then <|
    (compare a.name b.name).then (compare a.type b.type)

/-- The cells of a row. -/
def cells (index : Int) (row : PlanMetricRow) : List Cell :=
  [.int index, .int row.query, .int row.node, .text row.nodeName, .int row.accumulator,
    .text row.name, .int row.value, .text row.type]

end PlanMetricRow

/-- The names and types under which a query declares an accumulator. -/
def declaredMetrics (store : Store) (query accumulator : Int) : List (String × String) :=
  (store.metrics.filter fun metric =>
      metric.query == query && metric.accumulator == accumulator).map fun metric =>
    (metric.name, metric.type)

/-- Every plan node with every metric that it declares and that has a value. -/
def planMetricRows (store : Store) : List PlanMetricRow :=
  let largest := store.largestValues
  store.nodeMetrics.flatMap fun node =>
    match largest.find? (node.query, node.accumulator) with
    | none => []
    | some value =>
      (declaredMetrics store node.query node.accumulator).map fun (name, type) =>
        { query := node.query, node := node.node, nodeName := node.name
          accumulator := node.accumulator, name, type, value }

/-- The largest value of every metric of every plan node, each row once. -/
def planMetrics (store : Store) (index : Int) : Table :=
  let columns := ["appIndex", "sqlID", "nodeID", "nodeName", "accumulatorId", "name", "max_value",
    "metricType"]
  let sorted := (planMetricRows store).mergeSort fun a b => (PlanMetricRow.order a b).isLE
  Table.ofRowsOr columns "No SQL Plan Metrics Found!"
    (sorted.eraseReps.map (PlanMetricRow.cells index))

/-- Queries by identifier. -/
def sortedQueries (store : Store) : List (Int × Query) :=
  sortByKeys (fun entry => [entry.1]) store.queries.entries

/-- Queries with their duration, their findings and their share of processor time. -/
def queryDurations (store : Store) (index : Int) : Except Failure Table := do
  let columns := ["appIndex", "App ID", "sqlID", "SQL Duration", "Contains Dataset Op",
    "App Duration", "Potential Problems", "Executor CPU Time Percent"]
  let times := store.queryTimes
  let rows ← (sortedQueries store).mapM fun (id, query) => do
    let (cpu, run) := (times.find? id).getD (0, 0)
    let share ← Metrics.cpuShare (.int cpu) (.int run)
    return [.int index, .text store.applicationId, .int id, .ofOption .int query.duration,
      .bool query.hasDatasetOperation,
      .ofOption .int (store.application.bind Application.duration),
      .ofOption .text query.problems, .ofOption .float share]
  return Table.ofRowsOr columns "No SQL Durations Found!" rows

end SparkLog.Listing
