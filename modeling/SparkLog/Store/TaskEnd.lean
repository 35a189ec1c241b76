import SparkLog.Record.Task
import SparkLog.Payload.Arithmetic

/-!
# The end of a task

What the end of a task says, brought into the form of a task record: why it ended in one text, and
its nested metrics as one flat row. Metrics that were not collected are null and count as zero.
-/

namespace SparkLog

/-- The keys that may say why a task ended, the most telling first. -/
def detailKeys : List String :=
  ["Description", "Message", "Loss Reason", "Kill Reason"]

/-- The first present detail of an end reason, as a text. -/
def reasonDetail? (reason : Fields) : Option Payload :=
  (detailKeys.find? fun key => (reason.find key).isTruthy).map fun key =>
    .text (reason.find key).render

/-- Why a task ended: the reason, the class of the exception, the detail and the stack trace, as
far as they are there. A success is told by its reason alone. -/
def describeEndReason (reason : Fields) : Payload :=
  let word := reason.getD "Reason" (.text "")
  if word = .text "Success" then word
  else
    let detail? := reasonDetail? reason
    let className := reason.find "Class Name"
    let detail? :=
      if className.isTruthy then
        match detail? with
        | some detail => some (Payload.text (className.render ++ ": " ++ detail.render))
        | none => some className
      else detail?
    let text :=
      match detail? with
      | some detail => Payload.text (word.render ++ ": " ++ detail.render)
      | none => word
    let trace := reason.find "Full Stack Trace"
    if trace.isTruthy then .text (text.render ++ "\n" ++ trace.render) else text

/-- Nanoseconds in a millisecond. -/
def nanosPerMilli : Nat := 1000000

/-- A metric as it stands in a group, zero where it is absent or null. -/
def rawMetric (group : Fields) (key : String) : Payload :=
  (group.find key).orElse (.int 0)

/-- A group of metrics; an absent or empty one has none. -/
def rawGroup (metrics : Fields) (key : String) : Payload :=
  (metrics.find key).orElse (.object [])

/-- A metric in nanoseconds, in milliseconds. -/
def milliMetric (group : Fields) (key : String) : Except Failure Payload :=
  (rawMetric group key).floorDivide nanosPerMilli

/-- The metrics of a task as one row of raw values, named like the metrics. -/
def flattenMetrics (metrics : Fields) : Except Failure Fields := do
  let read ← (rawGroup metrics "Shuffle Read Metrics").fields
  let deserializeCpu ← milliMetric metrics "Executor Deserialize CPU Time"
  let cpu ← milliMetric metrics "Executor CPU Time"
  let remote := rawMetric read "Remote Bytes Read"
  let local_ := rawMetric read "Local Bytes Read"
  let total ← remote.plus local_
  let write ← (rawGroup metrics "Shuffle Write Metrics").fields
  let writeTime ← milliMetric write "Shuffle Write Time"
  let input ← (rawGroup metrics "Input Metrics").fields
  let output ← (rawGroup metrics "Output Metrics").fields
  let row : List (TaskMetric × Payload) :=
    [ (.deserializeTime, rawMetric metrics "Executor Deserialize Time"),
      (.deserializeCpuTime, deserializeCpu),
      (.runTime, rawMetric metrics "Executor Run Time"),
      (.cpuTime, cpu),
      (.peakMemory, rawMetric metrics "Peak Execution Memory"),
      (.resultSize, rawMetric metrics "Result Size"),
      (.gcTime, rawMetric metrics "JVM GC Time"),
      (.serializationTime, rawMetric metrics "Result Serialization Time"),
      (.memoryBytesSpilled, rawMetric metrics "Memory Bytes Spilled"),
      (.diskBytesSpilled, rawMetric metrics "Disk Bytes Spilled"),
      (.remoteBlocks, rawMetric read "Remote Blocks Fetched"),
      (.localBlocks, rawMetric read "Local Blocks Fetched"),
      (.fetchWaitTime, rawMetric read "Fetch Wait Time"),
      (.remoteBytes, remote),
      (.remoteBytesToDisk, rawMetric read "Remote Bytes Read To Disk"),
      (.localBytes, local_),
      (.totalBytes, total),
      (.shuffleBytesWritten, rawMetric write "Shuffle Bytes Written"),
      (.shuffleWriteTime, writeTime),
      (.shuffleRecordsWritten, rawMetric write "Shuffle Records Written"),
      (.inputBytes, rawMetric input "Bytes Read"),
      (.inputRecords, rawMetric input "Records Read"),
      (.outputBytes, rawMetric output "Bytes Written"),
      (.outputRecords, rawMetric output "Records Written") ]
  return row.map fun (metric, value) => (metric.name, value)

/-- A task ended well if its reason says so and neither failed nor killed is set. -/
def endedWell (reason info : Fields) : Bool :=
  reason.getD "Reason" (.text "") == .text "Success" &&
    !(info.getD "Failed" (.bool false)).isTruthy && !(info.getD "Killed" (.bool false)).isTruthy

/-- When a task was launched, as its information has it. -/
def launchTime (info : Fields) : Payload :=
  info.getD "Launch Time" (.int 0)

/-- When a task finished, as its information has it. -/
def finishTime (info : Fields) : Payload :=
  info.getD "Finish Time" (.int 0)

/-- When the result of a task began to be fetched, as its information has it. -/
def fetchTime (info : Fields) : Payload :=
  info.getD "Getting Result Time" (.int 0)

/-- The span between two times, zero where the time that it hangs on is absent. -/
def timeSpan (condition later earlier : Payload) : Except Failure Payload :=
  if condition.isTruthy then later.minus earlier else .ok (.int 0)

/-- How long a task took and how long its result was fetched. -/
def endTimes (info : Fields) : Except Failure (Payload × Payload) := do
  let duration ← timeSpan (finishTime info) (finishTime info) (launchTime info)
  let fetched ← timeSpan (fetchTime info) (finishTime info) (fetchTime info)
  return (duration, fetched)

/-- The fields of a task that do not come from its metrics. -/
def endFields (stage stageAttempt : Int) (type : String) (reason info : Fields)
    (duration fetched : Payload) : Fields :=
  [ ("stage_id", .int stage), ("stage_attempt_id", .int stageAttempt),
    ("task_id", info.find "Task ID"), ("attempt", info.getD "Attempt" (.int 0)),
    ("task_type", .text type), ("end_reason", describeEndReason reason),
    ("successful", .bool (endedWell reason info)),
    ("executor_id", .text (info.getD "Executor ID" (.text "")).render),
    ("host", info.getD "Host" (.text "")), ("locality", info.getD "Locality" (.text "")),
    ("speculative", info.getD "Speculative" (.bool false)),
    ("launch_time", launchTime info), ("finish_time", finishTime info),
    (TaskMetric.duration.name, duration), (TaskMetric.gettingResultTime.name, fetched) ]

/-- The task that a task end records. -/
def taskOfEnd (stage stageAttempt : Int) (type : String) (reason info : Fields)
    (metrics : Option Fields) : Except Failure Task := do
  let (duration, fetched) ← endTimes info
  let row ← flattenMetrics (metrics.getD [])
  Schema.accept "TaskRecord" <| Task.ofFields <|
    endFields stage stageAttempt type reason info duration fetched ++ row

end SparkLog
