import SparkLog.Schema.Field
import SparkLog.Payload.Scalar
import SparkLog.Payload.Text

/-!
# Records of an application

What is known about one application, record by record. Start records are made from events; their
derived fields (ends, durations, results) keep their defaults until the store is correlated and
its plans are analysed.
-/

namespace SparkLog


/-- The application itself. -/
structure Application where
  name : String
  id : String
  user : String
  start : Int
  finish : Option Int := none
  duration : Option Int := none
  elapsed : String := ""
  estimated : Bool := false
  version : String := ""
  accelerated : Bool := false
  deriving DecidableEq

/-- The fields of an application. -/
def Application.fields (a : Application) : Fields :=
  [ ("app_name", .text a.name), ("app_id", .text a.id), ("spark_user", .text a.user),
    ("start_time", .int a.start), ("end_time", .ofOption .int a.finish),
    ("duration", .ofOption .int a.duration), ("duration_str", .text a.elapsed),
    ("end_duration_estimated", .bool a.estimated), ("spark_version", .text a.version),
    ("accelerated_mode", .bool a.accelerated) ]

/-- An executor that was added. -/
structure Executor where
  id : String
  host : String
  cores : Int
  profile : Int
  added : Int
  deriving DecidableEq

/-- The fields of an executor. -/
def Executor.fields (e : Executor) : Fields :=
  [ ("executor_id", .text e.id), ("host", .text e.host), ("total_cores", .int e.cores),
    ("resource_profile_id", .int e.profile), ("added_time", .int e.added) ]

/-- The removal of an executor. -/
structure ExecutorRemoval where
  executor : String
  time : Int
  reason : String
  deriving DecidableEq

/-- The fields of a removal of an executor. -/
def ExecutorRemoval.fields (r : ExecutorRemoval) : Fields :=
  [("executor_id", .text r.executor), ("time", .int r.time), ("reason", .text r.reason)]

/-- The block manager of an executor. -/
structure BlockManager where
  executor : String
  host : String
  memory : Int
  onHeap : Option Int
  offHeap : Option Int
  time : Int
  deriving DecidableEq

/-- The fields of a block manager. -/
def BlockManager.fields (b : BlockManager) : Fields :=
  [ ("executor_id", .text b.executor), ("host", .text b.host), ("max_mem", .int b.memory),
    ("max_on_heap_mem", .ofOption .int b.onHeap), ("max_off_heap_mem", .ofOption .int b.offHeap),
    ("time", .int b.time) ]

/-- The removal of a block manager. -/
structure BlockManagerRemoval where
  executor : String
  time : Int
  deriving DecidableEq

/-- The fields of a removal of a block manager. -/
def BlockManagerRemoval.fields (r : BlockManagerRemoval) : Fields :=
  [("executor_id", .text r.executor), ("time", .int r.time)]

/-- A resource profile: what an executor and a task ask for. -/
structure ResourceProfile where
  id : Int
  executorCores : Option Binary64
  executorMemory : Option Binary64
  executorGpus : Option Binary64
  executorOffHeap : Option Binary64
  taskCores : Option Binary64
  taskGpus : Option Binary64
  deriving DecidableEq

/-- The fields of a resource profile. -/
def ResourceProfile.fields (r : ResourceProfile) : Fields :=
  [ ("profile_id", .int r.id), ("exec_cpu", .ofOption .float r.executorCores),
    ("exec_mem", .ofOption .float r.executorMemory),
    ("exec_gpu", .ofOption .float r.executorGpus),
    ("exec_offheap", .ofOption .float r.executorOffHeap),
    ("task_cpu", .ofOption .float r.taskCores), ("task_gpu", .ofOption .float r.taskGpus) ]

/-- A property of the environment. -/
structure Property where
  source : String
  key : String
  value : String
  deriving DecidableEq

/-- The fields of a property. -/
def Property.fields (p : Property) : Fields :=
  [("source", .text p.source), ("key", .text p.key), ("value", .text p.value)]

/-- A job. -/
structure Job where
  id : Int
  start : Option Int
  stages : List Int
  query : Option Int
  finish : Option Int := none
  duration : Option Int := none
  elapsed : String := ""
  result : Option String := none
  failure : Option String := none
  deriving DecidableEq

/-- The fields of a job. -/
def Job.fields (j : Job) : Fields :=
  [ ("job_id", .int j.id), ("start_time", .ofOption .int j.start),
    ("stage_ids", .list (j.stages.map .int)), ("sql_id", .ofOption .int j.query),
    ("end_time", .ofOption .int j.finish), ("duration", .ofOption .int j.duration),
    ("duration_str", .text j.elapsed), ("job_result", .ofOption .text j.result),
    ("failed_reason", .ofOption .text j.failure) ]

/-- The result of a job that succeeded. -/
def Job.success : String := "JobSucceeded"

/-- The end of a job. -/
structure JobEnd where
  job : Int
  time : Int
  result : Option String
  failure : Option String
  deriving DecidableEq

/-- The fields of the end of a job. -/
def JobEnd.fields (e : JobEnd) : Fields :=
  [ ("job_id", .int e.job), ("end_time", .int e.time), ("job_result", .ofOption .text e.result),
    ("failed_reason", .ofOption .text e.failure) ]

/-- The identifiers of a stage attempt as the log writes them. -/
structure StageKey where
  stage : Scalar
  attempt : Scalar
  deriving DecidableEq

namespace StageKey

/-- Two stage keys are the same if their identifiers agree. -/
def agrees (a b : StageKey) : Bool :=
  a.stage.agrees b.stage && a.attempt.agrees b.attempt

/-- The key of a stage attempt with integer identifiers. -/
def ofInts (stage attempt : Int) : StageKey :=
  ⟨.int stage, .int attempt⟩

/-- The key as a payload. -/
def toPayload (key : StageKey) : Payload :=
  .list [key.stage.toPayload, key.attempt.toPayload]

end StageKey

/-- A stage attempt. -/
structure Stage where
  id : Int
  attempt : Int
  name : String
  tasks : Int
  submitted : Option Int
  completed : Option Int := none
  duration : Option Int := none
  elapsed : String := ""
  failure : Option String := none
  runTime : Int := 0
  cpuTime : Int := 0
  deriving DecidableEq

/-- The fields of a stage attempt. -/
def Stage.fields (s : Stage) : Fields :=
  [ ("stage_id", .int s.id), ("attempt_id", .int s.attempt), ("name", .text s.name),
    ("num_tasks", .int s.tasks), ("submission_time", .ofOption .int s.submitted),
    ("completion_time", .ofOption .int s.completed), ("duration", .ofOption .int s.duration),
    ("duration_str", .text s.elapsed), ("failure_reason", .ofOption .text s.failure),
    ("executor_run_time_sum", .int s.runTime), ("executor_cpu_time_sum", .int s.cpuTime) ]

/-- The completion of a stage attempt. -/
structure StageCompletion where
  id : Int
  attempt : Int
  submitted : Option Int
  completed : Option Int
  failure : Option String
  deriving DecidableEq

/-- The fields of the completion of a stage attempt. -/
def StageCompletion.fields (c : StageCompletion) : Fields :=
  [ ("stage_id", .int c.id), ("attempt_id", .int c.attempt),
    ("submission_time", .ofOption .int c.submitted),
    ("completion_time", .ofOption .int c.completed),
    ("failure_reason", .ofOption .text c.failure) ]

/-- The execution of a query. -/
structure Query where
  id : Int
  description : String
  details : String
  start : Int
  finish : Option Int := none
  duration : Option Int := none
  elapsed : String := ""
  hasDatasetOperation : Bool := false
  qualifyingDuration : Int := 0
  problems : Option String := none
  deriving DecidableEq

/-- The fields of the execution of a query. -/
def Query.fields (q : Query) : Fields :=
  [ ("sql_id", .int q.id), ("description", .text q.description), ("details", .text q.details),
    ("start_time", .int q.start), ("end_time", .ofOption .int q.finish),
    ("duration", .ofOption .int q.duration), ("duration_str", .text q.elapsed),
    ("has_dataset_op", .bool q.hasDatasetOperation),
    ("sql_qual_duration", .int q.qualifyingDuration),
    ("potential_problems", .ofOption .text q.problems) ]

/-- A metric that some operator of a query declares. -/
structure QueryMetric where
  query : Int
  name : String
  accumulator : Int
  type : String
  deriving DecidableEq

/-- The fields of a metric of a query. -/
def QueryMetric.fields (m : QueryMetric) : Fields :=
  [ ("sql_id", .int m.query), ("name", .text m.name), ("accumulator_id", .int m.accumulator),
    ("metric_type", .text m.type) ]

/-- A plan node that declares a metric. -/
structure NodeMetric where
  query : Int
  node : Nat
  name : String
  description : String
  accumulator : Int
  deriving DecidableEq

/-- The fields of a plan node that declares a metric. -/
def NodeMetric.fields (m : NodeMetric) : Fields :=
  [ ("sql_id", .int m.query), ("node_id", .int m.node), ("node_name", .text m.name),
    ("node_desc", .text m.description), ("accumulator_id", .int m.accumulator) ]

/-- A value of an accumulator that the driver reported for a query. -/
structure DriverUpdate where
  query : Int
  accumulator : Int
  value : Int
  deriving DecidableEq

/-- The fields of a driver update. -/
def DriverUpdate.fields (u : DriverUpdate) : Fields :=
  [("sql_id", .int u.query), ("accumulator_id", .int u.accumulator), ("value", .int u.value)]

/-- A value of an accumulator that a task or a stage reported. -/
structure Accumulable where
  stage : Int
  attempt : Int
  task : Option Int
  accumulator : Int
  name : Option String
  value : Option Int
  deriving DecidableEq

/-- The fields of an accumulable. -/
def Accumulable.fields (a : Accumulable) : Fields :=
  [ ("stage_id", .int a.stage), ("attempt_id", .int a.attempt),
    ("task_id", .ofOption .int a.task), ("accumulator_id", .int a.accumulator),
    ("name", .ofOption .text a.name), ("value", .ofOption .int a.value) ]

/-- A label of a plan node. -/
structure PlanFlag where
  query : Int
  node : Nat
  kind : String
  reason : String
  deriving DecidableEq

/-- The fields of a label of a plan node. -/
def PlanFlag.fields (f : PlanFlag) : Fields :=
  [ ("sql_id", .int f.query), ("node_id", .int f.node), ("kind", .text f.kind),
    ("reason", .text f.reason) ]

/-- A plan node that cannot run accelerated. -/
structure UnsupportedNode where
  query : Int
  node : Nat
  name : String
  description : String
  deriving DecidableEq

/-- The fields of a plan node that cannot run accelerated. -/
def UnsupportedNode.fields (n : UnsupportedNode) : Fields :=
  [ ("sql_id", .int n.query), ("node_id", .int n.node), ("node_name", .text n.name),
    ("node_desc", .text n.description) ]

end SparkLog
