import SparkLog.Record.Basic

/-!
# Tasks

A finished task attempt and its metrics. Times are in milliseconds, sizes in bytes. Each metric is
rolled up in its own way: added, or its largest value taken, or everything at once.
-/

namespace SparkLog

/-- The metrics of a task, in the order of their names in listings. -/
inductive TaskMetric where
  | diskBytesSpilled
  | duration
  | cpuTime
  | deserializeCpuTime
  | deserializeTime
  | runTime
  | gettingResultTime
  | inputBytes
  | inputRecords
  | gcTime
  | memoryBytesSpilled
  | outputBytes
  | outputRecords
  | peakMemory
  | serializationTime
  | resultSize
  | fetchWaitTime
  | localBlocks
  | localBytes
  | remoteBlocks
  | remoteBytes
  | remoteBytesToDisk
  | totalBytes
  | shuffleBytesWritten
  | shuffleRecordsWritten
  | shuffleWriteTime
  deriving DecidableEq, Repr

namespace TaskMetric

/-- All metrics in the order of their names. -/
def all : List TaskMetric :=
  [ .diskBytesSpilled, .duration, .cpuTime, .deserializeCpuTime,
    .deserializeTime, .runTime, .gettingResultTime, .inputBytes,
    .inputRecords, .gcTime, .memoryBytesSpilled, .outputBytes,
    .outputRecords, .peakMemory, .serializationTime, .resultSize,
    .fetchWaitTime, .localBlocks, .localBytes, .remoteBlocks,
    .remoteBytes, .remoteBytesToDisk, .totalBytes, .shuffleBytesWritten,
    .shuffleRecordsWritten, .shuffleWriteTime ]

/-- The name of a metric in listings. -/
def name : TaskMetric → String
  | .diskBytesSpilled => "diskBytesSpilled"
  | .duration => "duration"
  | .cpuTime => "executorCPUTime"
  | .deserializeCpuTime => "executorDeserializeCPUTime"
  | .deserializeTime => "executorDeserializeTime"
  | .runTime => "executorRunTime"
  | .gettingResultTime => "gettingResultTime"
  | .inputBytes => "input_bytesRead"
  | .inputRecords => "input_recordsRead"
  | .gcTime => "jvmGCTime"
  | .memoryBytesSpilled => "memoryBytesSpilled"
  | .outputBytes => "output_bytesWritten"
  | .outputRecords => "output_recordsWritten"
  | .peakMemory => "peakExecutionMemory"
  | .serializationTime => "resultSerializationTime"
  | .resultSize => "resultSize"
  | .fetchWaitTime => "sr_fetchWaitTime"
  | .localBlocks => "sr_localBlocksFetched"
  | .localBytes => "sr_localBytesRead"
  | .remoteBlocks => "sr_remoteBlocksFetched"
  | .remoteBytes => "sr_remoteBytesRead"
  | .remoteBytesToDisk => "sr_remoteBytesReadToDisk"
  | .totalBytes => "sr_totalBytesRead"
  | .shuffleBytesWritten => "sw_bytesWritten"
  | .shuffleRecordsWritten => "sw_recordsWritten"
  | .shuffleWriteTime => "sw_writeTime"

/-- How a metric is rolled up over tasks. -/
inductive Mode where
  | sum
  | max
  | all
  deriving DecidableEq, Repr

/-- The name of a way to roll up. -/
def Mode.name : Mode → String
  | .sum => "sum"
  | .max => "max"
  | .all => "all"

/-- How each metric is rolled up: sizes that a task reaches by their largest value, the duration in
every way, all others by their sum. -/
def mode : TaskMetric → Mode
  | .duration => .all
  | .peakMemory | .resultSize => .max
  | _ => .sum

end TaskMetric

/-- The values of all metrics of a task. -/
structure TaskMetrics where
  diskBytesSpilled : Int
  duration : Int
  cpuTime : Int
  deserializeCpuTime : Int
  deserializeTime : Int
  runTime : Int
  gettingResultTime : Int
  inputBytes : Int
  inputRecords : Int
  gcTime : Int
  memoryBytesSpilled : Int
  outputBytes : Int
  outputRecords : Int
  peakMemory : Int
  serializationTime : Int
  resultSize : Int
  fetchWaitTime : Int
  localBlocks : Int
  localBytes : Int
  remoteBlocks : Int
  remoteBytes : Int
  remoteBytesToDisk : Int
  totalBytes : Int
  shuffleBytesWritten : Int
  shuffleRecordsWritten : Int
  shuffleWriteTime : Int
  deriving DecidableEq

namespace TaskMetrics

/-- The value of a metric. -/
def get (metrics : TaskMetrics) : TaskMetric → Int
  | .diskBytesSpilled => metrics.diskBytesSpilled
  | .duration => metrics.duration
  | .cpuTime => metrics.cpuTime
  | .deserializeCpuTime => metrics.deserializeCpuTime
  | .deserializeTime => metrics.deserializeTime
  | .runTime => metrics.runTime
  | .gettingResultTime => metrics.gettingResultTime
  | .inputBytes => metrics.inputBytes
  | .inputRecords => metrics.inputRecords
  | .gcTime => metrics.gcTime
  | .memoryBytesSpilled => metrics.memoryBytesSpilled
  | .outputBytes => metrics.outputBytes
  | .outputRecords => metrics.outputRecords
  | .peakMemory => metrics.peakMemory
  | .serializationTime => metrics.serializationTime
  | .resultSize => metrics.resultSize
  | .fetchWaitTime => metrics.fetchWaitTime
  | .localBlocks => metrics.localBlocks
  | .localBytes => metrics.localBytes
  | .remoteBlocks => metrics.remoteBlocks
  | .remoteBytes => metrics.remoteBytes
  | .remoteBytesToDisk => metrics.remoteBytesToDisk
  | .totalBytes => metrics.totalBytes
  | .shuffleBytesWritten => metrics.shuffleBytesWritten
  | .shuffleRecordsWritten => metrics.shuffleRecordsWritten
  | .shuffleWriteTime => metrics.shuffleWriteTime

/-- Read the metrics from fields that are named like them. -/
def ofFields (fields : Fields) : Checked TaskMetrics :=
  let metric (m : TaskMetric) : Checked Int := Schema.required fields m.name Schema.int
  TaskMetrics.mk
    <$> metric .diskBytesSpilled
    <*> metric .duration
    <*> metric .cpuTime
    <*> metric .deserializeCpuTime
    <*> metric .deserializeTime
    <*> metric .runTime
    <*> metric .gettingResultTime
    <*> metric .inputBytes
    <*> metric .inputRecords
    <*> metric .gcTime
    <*> metric .memoryBytesSpilled
    <*> metric .outputBytes
    <*> metric .outputRecords
    <*> metric .peakMemory
    <*> metric .serializationTime
    <*> metric .resultSize
    <*> metric .fetchWaitTime
    <*> metric .localBlocks
    <*> metric .localBytes
    <*> metric .remoteBlocks
    <*> metric .remoteBytes
    <*> metric .remoteBytesToDisk
    <*> metric .totalBytes
    <*> metric .shuffleBytesWritten
    <*> metric .shuffleRecordsWritten
    <*> metric .shuffleWriteTime

end TaskMetrics

/-- A finished task attempt. -/
structure Task where
  stage : Int
  stageAttempt : Int
  id : Int
  attempt : Int
  type : String
  reason : String
  successful : Bool
  executor : String
  host : String
  locality : String
  speculative : Bool
  launched : Int
  finished : Int
  metrics : TaskMetrics
  deriving DecidableEq

namespace Task

/-- The fields of a task. -/
def fields (t : Task) : Fields :=
  [ ("stage_id", .int t.stage), ("stage_attempt_id", .int t.stageAttempt), ("task_id", .int t.id),
    ("attempt", .int t.attempt), ("task_type", .text t.type), ("end_reason", .text t.reason),
    ("successful", .bool t.successful), ("executor_id", .text t.executor), ("host", .text t.host),
    ("locality", .text t.locality), ("speculative", .bool t.speculative),
    ("launch_time", .int t.launched), ("finish_time", .int t.finished) ] ++
  TaskMetric.all.map fun m => (m.name, .int (t.metrics.get m))

/-- Read a task from fields that are named like those of a task. -/
def ofFields (fields : Fields) : Checked Task :=
  Task.mk
    <$> Schema.required fields "stage_id" Schema.int
    <*> Schema.required fields "stage_attempt_id" Schema.int
    <*> Schema.required fields "task_id" Schema.int
    <*> Schema.required fields "attempt" Schema.int
    <*> Schema.required fields "task_type" Schema.text
    <*> Schema.required fields "end_reason" Schema.text
    <*> Schema.required fields "successful" Schema.bool
    <*> Schema.required fields "executor_id" Schema.text
    <*> Schema.required fields "host" Schema.text
    <*> Schema.required fields "locality" Schema.text
    <*> Schema.required fields "speculative" Schema.bool
    <*> Schema.required fields "launch_time" Schema.int
    <*> Schema.required fields "finish_time" Schema.int
    <*> TaskMetrics.ofFields fields

end Task

/-- What tells task attempts apart: the stage attempt, and the identifiers of the task as the log
writes them. -/
structure TaskKey where
  stage : Int
  stageAttempt : Int
  task : Scalar
  attempt : Scalar
  deriving DecidableEq

/-- Two task keys are the same if their identifiers agree. -/
def TaskKey.agrees (a b : TaskKey) : Bool :=
  a.stage == b.stage && a.stageAttempt == b.stageAttempt && a.task.agrees b.task &&
    a.attempt.agrees b.attempt

end SparkLog
