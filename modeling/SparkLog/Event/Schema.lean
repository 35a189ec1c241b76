import SparkLog.Event.Basic

/-!
# Reading events

An event record is normalised first, so that records of older versions fit too, and then its
declared content is read; fields beyond it are kept in their order.
-/

namespace SparkLog

open Schema

/-- The groups of task metrics that are objects of their own. -/
def metricGroups : List String :=
  ["Shuffle Read Metrics", "Shuffle Write Metrics", "Input Metrics", "Output Metrics"]

/-- Put an empty object in the place of a group that is no object. -/
def ensureGroup (metrics : Fields) (group : String) : Fields :=
  match metrics.get? group with
  | some (.object _) => metrics
  | _ => metrics.set group (.object [])

/-- Older records call the timestamp a time. -/
def withTimestamp (fields : Fields) : Fields :=
  match fields.get? "Time" with
  | some time => if fields.has "Timestamp" then fields else fields.set "Timestamp" time
  | none => fields

/-- Every group of task metrics is an object. -/
def withMetricGroups (fields : Fields) : Fields :=
  match fields.get? "Task Metrics" with
  | some (.object metrics) =>
    fields.set "Task Metrics" (.object (metricGroups.foldl ensureGroup metrics))
  | _ => fields

/-- Bring a record of an older version into the current form. -/
def normalize (fields : Fields) : Fields :=
  withMetricGroups (withTimestamp fields)

namespace EventContent

/-- Read the declared content of a kind from the fields of a record. -/
def ofFields (kind : EventKind) (fields : Fields) : Checked EventContent :=
  match kind with
  | .logStart => .logStart <$> withDefault fields "Spark Version" "" text
  | .applicationStart =>
    .applicationStart
      <$> required fields "App Name" text
      <*> withDefault fields "App ID" none (optional text)
      <*> required fields "Timestamp" int
      <*> withDefault fields "User" "" text
      <*> withDefault fields "App Attempt ID" none (optional text)
  | .applicationEnd => .applicationEnd <$> required fields "Timestamp" int
  | .environmentUpdate =>
    .environmentUpdate
      <$> withDefault fields "JVM Information" [] object
      <*> withDefault fields "Spark Properties" [] object
      <*> withDefault fields "Hadoop Properties" [] object
      <*> withDefault fields "System Properties" [] object
      <*> withDefault fields "Classpath Entries" [] object
  | .resourceProfileAdded =>
    .resourceProfileAdded
      <$> required fields "Resource Profile Id" int
      <*> withDefault fields "Executor Resource Requests" [] (objectOf object)
      <*> withDefault fields "Task Resource Requests" [] (objectOf object)
  | .jobStart =>
    .jobStart
      <$> required fields "Job ID" int
      <*> withDefault fields "Submission Time" none (optional int)
      <*> withDefault fields "Stage IDs" [] (listOf int)
      <*> withDefault fields "Stage Infos" (some []) (optional (listOf object))
      <*> withDefault fields "Properties" none (optional object)
  | .jobEnd =>
    .jobEnd
      <$> required fields "Job ID" int
      <*> required fields "Completion Time" int
      <*> withDefault fields "Job Result" none (optional object)
  | .stageSubmitted =>
    .stageSubmitted
      <$> required fields "Stage Info" object
      <*> withDefault fields "Properties" none (optional object)
  | .stageCompleted => .stageCompleted <$> required fields "Stage Info" object
  | .taskStart =>
    .taskStart
      <$> required fields "Stage ID" int
      <*> required fields "Stage Attempt ID" int
      <*> required fields "Task Info" object
  | .taskGettingResult => .taskGettingResult <$> required fields "Task Info" object
  | .taskEnd =>
    .taskEnd
      <$> required fields "Stage ID" int
      <*> required fields "Stage Attempt ID" int
      <*> withDefault fields "Task Type" "" text
      <*> required fields "Task End Reason" object
      <*> required fields "Task Info" object
      <*> withDefault fields "Task Metrics" none (optional object)
      <*> withDefault fields "Task Executor Metrics" none (optional object)
  | .executorAdded =>
    .executorAdded
      <$> required fields "Timestamp" int
      <*> required fields "Executor ID" text
      <*> required fields "Executor Info" object
  | .executorRemoved =>
    .executorRemoved
      <$> required fields "Timestamp" int
      <*> required fields "Executor ID" text
      <*> withDefault fields "Removed Reason" "" text
  | .blockManagerAdded =>
    .blockManagerAdded
      <$> required fields "Timestamp" int
      <*> required fields "Block Manager ID" object
      <*> withDefault fields "Maximum Memory" 0 int
      <*> withDefault fields "Maximum Onheap Memory" none (optional int)
      <*> withDefault fields "Maximum Offheap Memory" none (optional int)
  | .blockManagerRemoved =>
    .blockManagerRemoved
      <$> required fields "Timestamp" int
      <*> required fields "Block Manager ID" object
  | .queryStart =>
    .queryStart
      <$> required fields "executionId" int
      <*> withDefault fields "description" "" text
      <*> withDefault fields "details" "" text
      <*> withDefault fields "physicalPlanDescription" "" text
      <*> required fields "sparkPlanInfo" PlanTree.ofPayload
      <*> required fields "time" int
  | .queryEnd =>
    .queryEnd
      <$> required fields "executionId" int
      <*> required fields "time" int
  | .planUpdate =>
    .planUpdate
      <$> required fields "executionId" int
      <*> withDefault fields "physicalPlanDescription" "" text
      <*> required fields "sparkPlanInfo" PlanTree.ofPayload
  | .metricUpdates =>
    .metricUpdates
      <$> required fields "executionId" int
      <*> withDefault fields "sqlPlanMetrics" [] (listOf PlanMetric.ofPayload)
  | .driverUpdates =>
    .driverUpdates
      <$> required fields "executionId" int
      <*> withDefault fields "accumUpdates" [] (listOf (listOf int))
  | .other => .ok .other

/-- The attributes of a content with their values, in order of declaration. -/
def attributes : EventContent → Fields
  | .logStart version => [("SparkVersion", .text version)]
  | .applicationStart name id time user attempt =>
    [ ("AppName", .text name), ("AppID", .ofOption .text id), ("Timestamp", .int time),
      ("User", .text user), ("AppAttemptID", .ofOption .text attempt) ]
  | .applicationEnd time => [("Timestamp", .int time)]
  | .environmentUpdate jvm spark hadoop system classpath =>
    [ ("JVMInformation", .object jvm), ("SparkProperties", .object spark),
      ("HadoopProperties", .object hadoop), ("SystemProperties", .object system),
      ("ClasspathEntries", .object classpath) ]
  | .resourceProfileAdded id executor task =>
    [ ("ResourceProfileID", .int id),
      ("ExecutorResourceRequests", .object (executor.map fun f => (f.1, .object f.2))),
      ("TaskResourceRequests", .object (task.map fun f => (f.1, .object f.2))) ]
  | .jobStart id time stages stageInfos properties =>
    [ ("JobID", .int id), ("SubmissionTime", .ofOption .int time),
      ("StageIDs", .list (stages.map .int)),
      ("StageInfos", .ofOption (fun infos => .list (infos.map .object)) stageInfos),
      ("Properties", .ofOption .object properties) ]
  | .jobEnd id time result =>
    [ ("JobID", .int id), ("CompletionTime", .int time),
      ("JobResult", .ofOption .object result) ]
  | .stageSubmitted info properties =>
    [("StageInfo", .object info), ("Properties", .ofOption .object properties)]
  | .stageCompleted info => [("StageInfo", .object info)]
  | .taskStart stage attempt info =>
    [("StageID", .int stage), ("StageAttemptID", .int attempt), ("TaskInfo", .object info)]
  | .taskGettingResult info => [("TaskInfo", .object info)]
  | .taskEnd stage attempt type reason info metrics executorMetrics =>
    [ ("StageID", .int stage), ("StageAttemptID", .int attempt), ("TaskType", .text type),
      ("TaskEndReason", .object reason), ("TaskInfo", .object info),
      ("TaskMetrics", .ofOption .object metrics),
      ("TaskExecutorMetrics", .ofOption .object executorMetrics) ]
  | .executorAdded time executor info =>
    [("Timestamp", .int time), ("ExecutorID", .text executor), ("ExecutorInfo", .object info)]
  | .executorRemoved time executor reason =>
    [("Timestamp", .int time), ("ExecutorID", .text executor), ("RemovedReason", .text reason)]
  | .blockManagerAdded time manager memory onHeap offHeap =>
    [ ("Timestamp", .int time), ("BlockManagerID", .object manager),
      ("MaximumMemory", .int memory), ("MaximumOnHeapMemory", .ofOption .int onHeap),
      ("MaximumOffHeapMemory", .ofOption .int offHeap) ]
  | .blockManagerRemoved time manager =>
    [("Timestamp", .int time), ("BlockManagerID", .object manager)]
  | .queryStart id description details planText plan time =>
    [ ("executionId", .int id), ("description", .text description), ("details", .text details),
      ("physicalPlanDescription", .text planText), ("sparkPlanInfo", plan.toPayload),
      ("time", .int time) ]
  | .queryEnd id time => [("executionId", .int id), ("time", .int time)]
  | .planUpdate id planText plan =>
    [ ("executionId", .int id), ("physicalPlanDescription", .text planText),
      ("sparkPlanInfo", plan.toPayload) ]
  | .metricUpdates id metrics =>
    [("executionId", .int id), ("sqlPlanMetrics", .list (metrics.map PlanMetric.toPayload))]
  | .driverUpdates id updates =>
    [ ("executionId", .int id),
      ("accumUpdates", .list (updates.map fun pair => .list (pair.map .int))) ]
  | .other => []

end EventContent

namespace Event

/-- Read an event of a name from the normalised fields of its record. -/
def ofFields (name : String) (fields : Fields) : Except Failure Event :=
  let kind := EventKind.ofName name
  let read : Checked Event :=
    (fun name content =>
        { name, content
          extras := fields.filter fun f => f.1 != "Event" && !kind.keys.contains f.1 })
      <$> required fields "Event" text
      <*> EventContent.ofFields kind fields
  accept kind.name read

/-- The name, the attributes and the further fields of an event. -/
def attributes (event : Event) : Fields :=
  ("Event", .text event.name) :: event.content.attributes ++ event.extras

end Event

end SparkLog
