import SparkLog.Record.Task
import SparkLog.Event.Basic
import SparkLog.Plan.Graph
import SparkLog.Keyed

/-!
# The store of an application

All that an event log says about one application, one ordered collection per family of records.
Events add records, correlation and plan analysis fill in derived fields, and closing the store
opens it for queries.
-/

namespace SparkLog

/-- Where a property of the environment comes from. -/
inductive PropertySource where
  | spark
  | hadoop
  | system
  | jvm
  | classpath
  deriving DecidableEq, Repr

namespace PropertySource

/-- All sources. -/
def all : List PropertySource := [.spark, .hadoop, .system, .jvm, .classpath]

/-- The name of a source. -/
def name : PropertySource → String
  | .spark => "spark"
  | .hadoop => "hadoop"
  | .system => "system"
  | .jvm => "jvm"
  | .classpath => "classpath"

/-- The source of a name. -/
def ofName? (name : String) : Option PropertySource :=
  all.find? fun source => source.name == name

end PropertySource

/-- The records of one application. -/
structure Store where
  finalized : Bool := false
  application : Option Application := none
  finish : Option Int := none
  version : String := ""
  accelerated : Bool := false
  executors : Keyed String Executor := .empty
  executorRemovals : List ExecutorRemoval := []
  blockManagers : Keyed String BlockManager := .empty
  blockManagerRemovals : List BlockManagerRemoval := []
  profiles : Keyed Int ResourceProfile := .empty
  properties : Keyed (PropertySource × String) Property := .empty
  jobs : Keyed Int Job := .empty
  jobEnds : Keyed Int JobEnd := .empty
  stages : Keyed StageKey Stage := .empty
  completions : Keyed StageKey StageCompletion := .empty
  tasks : List Task := []
  taskKeys : List TaskKey := []
  queries : Keyed Int Query := .empty
  queryEnds : Keyed Int Int := .empty
  plans : Keyed Int PlanTree := .empty
  planTexts : Keyed Int String := .empty
  adaptiveMetrics : List QueryMetric := []
  driverUpdates : List DriverUpdate := []
  accumulables : List Accumulable := []
  graphs : Keyed Int PlanGraph := .empty
  metrics : List QueryMetric := []
  nodeMetrics : List NodeMetric := []
  flags : List PlanFlag := []
  unsupported : List UnsupportedNode := []
  others : List Event := []

namespace Store

/-- The identifier of the application, empty while it is unknown. -/
def applicationId (store : Store) : String :=
  match store.application with
  | some application => application.id
  | none => ""

/-- The stage attempt of a key, whichever way its identifiers are written. -/
def stage? (store : Store) (key : StageKey) : Option Stage :=
  store.stages.findBy? StageKey.agrees key

/-- The completion of a stage attempt. -/
def completion? (store : Store) (key : StageKey) : Option StageCompletion :=
  store.completions.findBy? StageKey.agrees key

/-- The value of a property, if it was recorded. -/
def property? (store : Store) (source : PropertySource) (key : String) : Option String :=
  (store.properties.find? (source, key)).map Property.value

/-- Close the store; queries are open from here on. -/
def finalize (store : Store) : Store :=
  { store with finalized := true }

end Store

end SparkLog
