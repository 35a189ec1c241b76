import SparkLog.Plan.Basic
import SparkLog.Payload.Scalar

/-!
# Events

The listener events of an application that have a declared content, and all others. Core events
write their keys with spaces, events about queries in camel case. Parts that are read piece by
piece later (task information, task metrics, stage information) stay fields of the log.
-/

namespace SparkLog

/-- The kinds of event. -/
inductive EventKind where
  | logStart
  | applicationStart
  | applicationEnd
  | environmentUpdate
  | resourceProfileAdded
  | jobStart
  | jobEnd
  | stageSubmitted
  | stageCompleted
  | taskStart
  | taskGettingResult
  | taskEnd
  | executorAdded
  | executorRemoved
  | blockManagerAdded
  | blockManagerRemoved
  | queryStart
  | queryEnd
  | planUpdate
  | metricUpdates
  | driverUpdates
  | other
  deriving DecidableEq, Repr

namespace EventKind

/-- All kinds with a declared content. -/
def declared : List EventKind :=
  [ .logStart, .applicationStart, .applicationEnd, .environmentUpdate, .resourceProfileAdded,
    .jobStart, .jobEnd, .stageSubmitted, .stageCompleted, .taskStart, .taskGettingResult, .taskEnd,
    .executorAdded, .executorRemoved, .blockManagerAdded, .blockManagerRemoved, .queryStart,
    .queryEnd, .planUpdate, .metricUpdates, .driverUpdates ]

/-- The name of a kind. -/
def name : EventKind → String
  | .logStart => "SparkListenerLogStart"
  | .applicationStart => "SparkListenerApplicationStart"
  | .applicationEnd => "SparkListenerApplicationEnd"
  | .environmentUpdate => "SparkListenerEnvironmentUpdate"
  | .resourceProfileAdded => "SparkListenerResourceProfileAdded"
  | .jobStart => "SparkListenerJobStart"
  | .jobEnd => "SparkListenerJobEnd"
  | .stageSubmitted => "SparkListenerStageSubmitted"
  | .stageCompleted => "SparkListenerStageCompleted"
  | .taskStart => "SparkListenerTaskStart"
  | .taskGettingResult => "SparkListenerTaskGettingResult"
  | .taskEnd => "SparkListenerTaskEnd"
  | .executorAdded => "SparkListenerExecutorAdded"
  | .executorRemoved => "SparkListenerExecutorRemoved"
  | .blockManagerAdded => "SparkListenerBlockManagerAdded"
  | .blockManagerRemoved => "SparkListenerBlockManagerRemoved"
  | .queryStart => "SparkListenerSQLExecutionStart"
  | .queryEnd => "SparkListenerSQLExecutionEnd"
  | .planUpdate => "SparkListenerSQLAdaptiveExecutionUpdate"
  | .metricUpdates => "SparkListenerSQLAdaptiveSQLMetricUpdates"
  | .driverUpdates => "SparkListenerDriverAccumUpdates"
  | .other => "SparkEvent"

/-- The package that events about queries carry in front of their name. -/
def queryPackage : List Char :=
  "org.apache.spark.sql.execution.ui.".toList

/-- The name of an event without the package of events about queries. -/
def shortName (text : String) : String :=
  if queryPackage.isPrefixOf text.toList then
    String.ofList (text.toList.drop queryPackage.length)
  else text

/-- The name of an event without its package, for a name that may be anything. -/
def shortNameOf : Payload → Except Failure String
  | .text text => .ok (shortName text)
  | name => .error (.noOperation name.shape "startswith")

/-- The kind of the events of a name, with or without package. -/
def ofName (text : String) : EventKind :=
  (declared.find? fun kind => kind.name == shortName text).getD .other

/-- The keys of the declared content of a kind, in order of declaration. -/
def keys : EventKind → List String
  | .logStart => ["Spark Version"]
  | .applicationStart => ["App Name", "App ID", "Timestamp", "User", "App Attempt ID"]
  | .applicationEnd => ["Timestamp"]
  | .environmentUpdate =>
    [ "JVM Information", "Spark Properties", "Hadoop Properties", "System Properties",
      "Classpath Entries" ]
  | .resourceProfileAdded =>
    ["Resource Profile Id", "Executor Resource Requests", "Task Resource Requests"]
  | .jobStart => ["Job ID", "Submission Time", "Stage IDs", "Stage Infos", "Properties"]
  | .jobEnd => ["Job ID", "Completion Time", "Job Result"]
  | .stageSubmitted => ["Stage Info", "Properties"]
  | .stageCompleted => ["Stage Info"]
  | .taskStart => ["Stage ID", "Stage Attempt ID", "Task Info"]
  | .taskGettingResult => ["Task Info"]
  | .taskEnd =>
    [ "Stage ID", "Stage Attempt ID", "Task Type", "Task End Reason", "Task Info", "Task Metrics",
      "Task Executor Metrics" ]
  | .executorAdded => ["Timestamp", "Executor ID", "Executor Info"]
  | .executorRemoved => ["Timestamp", "Executor ID", "Removed Reason"]
  | .blockManagerAdded =>
    [ "Timestamp", "Block Manager ID", "Maximum Memory", "Maximum Onheap Memory",
      "Maximum Offheap Memory" ]
  | .blockManagerRemoved => ["Timestamp", "Block Manager ID"]
  | .queryStart =>
    ["executionId", "description", "details", "physicalPlanDescription", "sparkPlanInfo", "time"]
  | .queryEnd => ["executionId", "time"]
  | .planUpdate => ["executionId", "physicalPlanDescription", "sparkPlanInfo"]
  | .metricUpdates => ["executionId", "sqlPlanMetrics"]
  | .driverUpdates => ["executionId", "accumUpdates"]
  | .other => []

end EventKind

/-- The declared content of an event, by kind. -/
inductive EventContent where
  | logStart (version : String)
  | applicationStart (name : String) (id : Option String) (time : Int) (user : String)
      (attempt : Option String)
  | applicationEnd (time : Int)
  | environmentUpdate (jvm spark hadoop system classpath : Fields)
  | resourceProfileAdded (id : Int) (executor task : List (String × Fields))
  | jobStart (id : Int) (time : Option Int) (stages : List Int)
      (stageInfos : Option (List Fields)) (properties : Option Fields)
  | jobEnd (id time : Int) (result : Option Fields)
  | stageSubmitted (info : Fields) (properties : Option Fields)
  | stageCompleted (info : Fields)
  | taskStart (stage attempt : Int) (info : Fields)
  | taskGettingResult (info : Fields)
  | taskEnd (stage attempt : Int) (type : String) (reason info : Fields)
      (metrics executorMetrics : Option Fields)
  | executorAdded (time : Int) (executor : String) (info : Fields)
  | executorRemoved (time : Int) (executor reason : String)
  | blockManagerAdded (time : Int) (manager : Fields) (memory : Int)
      (onHeap offHeap : Option Int)
  | blockManagerRemoved (time : Int) (manager : Fields)
  | queryStart (id : Int) (description details planText : String) (plan : PlanTree) (time : Int)
  | queryEnd (id time : Int)
  | planUpdate (id : Int) (planText : String) (plan : PlanTree)
  | metricUpdates (id : Int) (metrics : List PlanMetric)
  | driverUpdates (id : Int) (updates : List (List Int))
  | other

/-- An event: its name as written, its declared content, and the fields beyond it. -/
structure Event where
  name : String
  content : EventContent
  extras : Fields

namespace EventContent

/-- The kind of a content. -/
def kind : EventContent → EventKind
  | .logStart .. => .logStart
  | .applicationStart .. => .applicationStart
  | .applicationEnd .. => .applicationEnd
  | .environmentUpdate .. => .environmentUpdate
  | .resourceProfileAdded .. => .resourceProfileAdded
  | .jobStart .. => .jobStart
  | .jobEnd .. => .jobEnd
  | .stageSubmitted .. => .stageSubmitted
  | .stageCompleted .. => .stageCompleted
  | .taskStart .. => .taskStart
  | .taskGettingResult .. => .taskGettingResult
  | .taskEnd .. => .taskEnd
  | .executorAdded .. => .executorAdded
  | .executorRemoved .. => .executorRemoved
  | .blockManagerAdded .. => .blockManagerAdded
  | .blockManagerRemoved .. => .blockManagerRemoved
  | .queryStart .. => .queryStart
  | .queryEnd .. => .queryEnd
  | .planUpdate .. => .planUpdate
  | .metricUpdates .. => .metricUpdates
  | .driverUpdates .. => .driverUpdates
  | .other => .other

end EventContent

end SparkLog
