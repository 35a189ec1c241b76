import SparkLog.Store.Basic
import SparkLog.Store.Accumulables
import SparkLog.Store.TaskEnd
import SparkLog.Settings
import SparkLog.Log.Reader
import SparkLog.Changed
import SparkLog.Distinct

/-!
# Ingestion

Every event adds to the store what it says. Start and end records of one identifier are kept from
the first event that has them, settings of the environment and completions of stages from the
last. An event that fails leaves the store as it was, except that driver updates before a bad one
stay.
-/

namespace SparkLog

namespace Store

/-- Record the properties of one source. -/
def addProperties (store : Store) (source : PropertySource) (values : Fields) : Store :=
  { store with
    properties := values.foldl
      (fun table (key, value) =>
        table.insert (source, key) { source := source.name, key, value := value.render })
      store.properties }

/-- Whether the properties of a run turn on the accelerator: its plugin is loaded and its switch
is not off. -/
def isAccelerated (settings : Settings) (spark : Fields) : Bool :=
  let plugins := (spark.getD "spark.plugins" (.text "")).render
  let switch := (spark.getD settings.acceleratorSwitch (.text "true")).render
  Text.contains plugins settings.acceleratorPlugin &&
    Decimal.lowerAscii (Text.strip Text.isBlank switch.toList) != "false"

/-- Record the environment of a run. -/
def addEnvironment (settings : Settings) (store : Store)
    (jvm spark hadoop system classpath : Fields) : Store :=
  let store := store.addProperties .spark spark
  let store := store.addProperties .hadoop hadoop
  let store := store.addProperties .system system
  let store := store.addProperties .jvm jvm
  let store := store.addProperties .classpath classpath
  { store with accelerated := isAccelerated settings spark }

/-- The amount of a resource that is asked for. -/
def amount (requests : List (String × Fields)) (name : String) : Payload :=
  match requests.lookup name with
  | some request => request.find "Amount"
  | none => .null

/-- Record a resource profile, in the place of an earlier one of the same identifier. -/
def addProfile (store : Store) (id : Int) (executor task : List (String × Fields)) :
    Except Failure Store := do
  let read := Schema.optional Schema.float
  let profile ← Schema.accept "ResourceProfileRecord" <|
    ResourceProfile.mk id
      <$> read (amount executor "cores")
      <*> read (amount executor "memory")
      <*> read (amount executor "gpu")
      <*> read (amount executor "offHeap")
      <*> read (amount task "cpus")
      <*> read (amount task "gpu")
  return { store with profiles := store.profiles.insert id profile }

/-- Record an executor, unless it was added before. -/
def addExecutor (store : Store) (time : Int) (id : String) (info : Fields) :
    Except Failure Store := do
  if store.executors.has id then
    return store
  let executor ← Schema.accept "ExecutorRecord" <|
    (fun host cores profile => { id, host, cores, profile, added := time : Executor })
      <$> Schema.text (info.getD "Host" (.text ""))
      <*> Schema.int (info.getD "Total Cores" (.int 0))
      <*> Schema.int (info.getD "Resource Profile Identifier" (.int 0))
  return { store with executors := store.executors.insert id executor }

/-- The executor that a block manager belongs to. -/
def managedExecutor (manager : Fields) : Except Failure String :=
  match manager.get? "Executor ID" with
  | some id => .ok id.render
  | none => .error (.missingKey "Executor ID")

/-- Record a block manager, unless its executor has one already. -/
def addBlockManager (store : Store) (time : Int) (manager : Fields) (memory : Int)
    (onHeap offHeap : Option Int) : Except Failure Store := do
  let executor ← managedExecutor manager
  if store.blockManagers.has executor then
    return store
  let blockManager ← Schema.accept "BlockManagerRecord" <|
    (fun host => { executor, host, memory, onHeap, offHeap, time : BlockManager })
      <$> Schema.text (manager.getD "Host" (.text ""))
  return { store with blockManagers := store.blockManagers.insert executor blockManager }

/-- Record the removal of a block manager. -/
def addBlockManagerRemoval (store : Store) (time : Int) (manager : Fields) :
    Except Failure Store := do
  let executor ← managedExecutor manager
  return { store with
    blockManagerRemovals := store.blockManagerRemovals ++ [{ executor, time }] }

/-- The query that the properties of a job name. -/
def queryOfProperties (properties : Fields) : Except Failure (Option Int) :=
  match properties.find "spark.sql.execution.id" with
  | .null => .ok none
  | .text "" => .ok none
  | id => some <$> id.toInteger

/-- Record a job, unless it was started before. -/
def addJob (store : Store) (id : Int) (start : Option Int) (stages : List Int)
    (properties : Fields) : Except Failure Store := do
  if store.jobs.has id then
    return store
  let query ← queryOfProperties properties
  let job : Job := { id, start, stages := distinct stages, query }
  return { store with jobs := store.jobs.insert id job }

/-- Record the end of a job, unless it ended before. -/
def addJobEnd (store : Store) (id time : Int) (result : Fields) : Except Failure Store := do
  if store.jobEnds.has id then
    return store
  let message : Payload :=
    match result.find "Exception" with
    | .object exception => Fields.find exception "Message"
    | _ => .null
  let jobEnd ← Schema.accept "JobEndRecord" <|
    JobEnd.mk id time
      <$> Schema.optional Schema.text (result.find "Result")
      <*> Schema.optional Schema.text message
  return { store with jobEnds := store.jobEnds.insert id jobEnd }

/-- The identifiers of a stage attempt in its information. -/
def stageIdentifiers (info : Fields) : Except Failure (Payload × Payload) :=
  match info.get? "Stage ID" with
  | some stage => .ok (stage, info.getD "Stage Attempt ID" (.int 0))
  | none => .error (.missingKey "Stage ID")

/-- The key of identifiers. -/
def stageKey (stage attempt : Payload) : Except Failure StageKey := do
  let stage ← Scalar.ofPayload stage
  let attempt ← Scalar.ofPayload attempt
  return ⟨stage, attempt⟩

/-- Record a stage attempt, unless it was submitted before. -/
def addStage (store : Store) (info : Fields) : Except Failure Store := do
  let (stage, attempt) ← stageIdentifiers info
  let key ← stageKey stage attempt
  if (store.stage? key).isSome then
    return store
  let record ← Schema.accept "StageRecord" <|
    (fun id attempt name tasks submitted => { id, attempt, name, tasks, submitted : Stage })
      <$> Schema.int stage
      <*> Schema.int attempt
      <*> Schema.text (info.getD "Stage Name" (.text ""))
      <*> Schema.int (info.getD "Number of Tasks" (.int 0))
      <*> Schema.optional Schema.int (info.find "Submission Time")
  return { store with stages := store.stages.insertBy StageKey.agrees key record }

/-- Record the completion of a stage attempt and its accumulables. -/
def addCompletion (store : Store) (info : Fields) : Except Failure Store := do
  let (stage, attempt) ← stageIdentifiers info
  let key ← stageKey stage attempt
  let reported ← SparkLog.accumulables stage attempt .null (info.find "Accumulables")
  let record ← Schema.accept "StageCompletedRecord" <|
    StageCompletion.mk
      <$> Schema.int stage
      <*> Schema.int attempt
      <*> Schema.optional Schema.int (info.find "Submission Time")
      <*> Schema.optional Schema.int (info.find "Completion Time")
      <*> Schema.optional Schema.text (info.find "Failure Reason")
  return { store with
    completions := store.completions.insertBy StageKey.agrees key record
    accumulables := store.accumulables ++ reported }

/-- The identifier of a task in its information. -/
def taskIdentifier (info : Fields) : Except Failure Payload :=
  match info.get? "Task ID" with
  | some task => .ok task
  | none => .error (.missingKey "Task ID")

/-- The key of the identifiers of a task attempt. -/
def taskKey (stage stageAttempt : Int) (task attempt : Payload) : Except Failure TaskKey := do
  let task ← Scalar.ofPayload task
  let attempt ← Scalar.ofPayload attempt
  return { stage, stageAttempt, task, attempt }

/-- Record a finished task attempt and its accumulables, unless it ended before. -/
def addTask (store : Store) (stage stageAttempt : Int) (type : String) (reason info : Fields)
    (metrics : Option Fields) : Except Failure Store := do
  let id ← taskIdentifier info
  let key ← taskKey stage stageAttempt id (info.getD "Attempt" (.int 0))
  if store.taskKeys.any (TaskKey.agrees key) then
    return store
  let task ← taskOfEnd stage stageAttempt type reason info metrics
  let entries := info.find "Accumulables"
  let reported ← SparkLog.accumulables (.int stage) (.int stageAttempt) id entries
  return { store with
    taskKeys := store.taskKeys ++ [key]
    tasks := store.tasks ++ [task]
    accumulables := store.accumulables ++ reported }

/-- Record a query and its plan, unless it was started before. -/
def addQuery (store : Store) (id : Int) (description details planText : String) (plan : PlanTree)
    (time : Int) : Store :=
  if store.queries.has id then store
  else
    { store with
      queries := store.queries.insert id { id, description, details, start := time }
      plans := store.plans.insert id plan
      planTexts := store.planTexts.insert id planText }

/-- Record the plan that replaces the one of a query. -/
def updatePlan (store : Store) (id : Int) (planText : String) (plan : PlanTree) : Store :=
  { store with
    plans := store.plans.insert id plan
    planTexts := store.planTexts.insert id planText }

/-- The metric of a query that an operator declares. -/
def queryMetric (query : Int) (metric : PlanMetric) : QueryMetric :=
  { query, name := metric.name, accumulator := metric.accumulator, type := metric.type }

/-- Record the updates of the driver one by one; the first that is no pair ends it. -/
def addDriverUpdates (query : Int) : List (List Int) → Store → Changed Store
  | [], store => (store, none)
  | [accumulator, value] :: rest, store =>
    addDriverUpdates query rest
      { store with driverUpdates := store.driverUpdates ++ [{ query, accumulator, value }] }
  | update :: _, store =>
    (store, some (if update.length < 2 then .tooFewMembers 2 update.length else .tooManyMembers 2))

/-- Take an event in. -/
def apply (settings : Settings) (store : Store) (event : Event) : Changed Store :=
  match event.content with
  | .logStart version => ({ store with version }, none)
  | .applicationStart name id time user _ =>
    let application : Application := { name, id := id.getD "", user, start := time }
    ({ store with application := store.application.or (some application) }, none)
  | .applicationEnd time => ({ store with finish := store.finish.or (some time) }, none)
  | .environmentUpdate jvm spark hadoop system classpath =>
    (store.addEnvironment settings jvm spark hadoop system classpath, none)
  | .resourceProfileAdded id executor task =>
    Changed.ofResult store (store.addProfile id executor task)
  | .jobStart id time stages _ properties =>
    Changed.ofResult store (store.addJob id time stages (properties.getD []))
  | .jobEnd id time result => Changed.ofResult store (store.addJobEnd id time (result.getD []))
  | .stageSubmitted info _ => Changed.ofResult store (store.addStage info)
  | .stageCompleted info => Changed.ofResult store (store.addCompletion info)
  | .taskStart .. | .taskGettingResult .. => (store, none)
  | .taskEnd stage stageAttempt type reason info metrics _ =>
    Changed.ofResult store (store.addTask stage stageAttempt type reason info metrics)
  | .executorAdded time id info => Changed.ofResult store (store.addExecutor time id info)
  | .executorRemoved time executor reason =>
    ({ store with
      executorRemovals := store.executorRemovals ++ [{ executor, time, reason }] }, none)
  | .blockManagerAdded time manager memory onHeap offHeap =>
    Changed.ofResult store (store.addBlockManager time manager memory onHeap offHeap)
  | .blockManagerRemoved time manager =>
    Changed.ofResult store (store.addBlockManagerRemoval time manager)
  | .queryStart id description details planText plan time =>
    (store.addQuery id description details planText plan time, none)
  | .queryEnd id time => ({ store with queryEnds := store.queryEnds.insertNew id time }, none)
  | .planUpdate id planText plan => (store.updatePlan id planText plan, none)
  | .metricUpdates id metrics =>
    ({ store with
      adaptiveMetrics := store.adaptiveMetrics ++ metrics.map (queryMetric id) }, none)
  | .driverUpdates id updates => addDriverUpdates id updates store
  | .other => ({ store with others := store.others ++ [event] }, none)

end Store

/-- What ingestion counts: events taken in, events kept aside, events that failed. -/
structure IngestCounts where
  handled : Nat := 0
  other : Nat := 0
  failed : Nat := 0
  deriving DecidableEq

/-- The state of ingestion: the store, its counts, and the counts of the reader of raw records. -/
structure Intake where
  store : Store := {}
  counts : IngestCounts := {}
  reads : ReadCounts := {}

namespace Intake

/-- Count one more failed event. -/
def countFailed (intake : Intake) : Intake :=
  { intake with counts := { intake.counts with failed := intake.counts.failed + 1 } }

/-- Count one more event taken in. -/
def countHandled (intake : Intake) : Intake :=
  { intake with counts := { intake.counts with handled := intake.counts.handled + 1 } }

/-- Count one more event kept aside. -/
def countOther (intake : Intake) : Intake :=
  { intake with counts := { intake.counts with other := intake.counts.other + 1 } }

/-- Take an event in. A failure of a skippable kind is counted, and stops a strict intake only;
any other failure stops every intake and is not counted. -/
def event (settings : Settings) (intake : Intake) (event : Event) : Changed Intake :=
  let (store, failure) := intake.store.apply settings event
  let intake := { intake with store }
  match event.content, failure with
  | .other, _ => (intake.countOther, none)
  | _, none => (intake.countHandled, none)
  | _, some failure =>
    if failure.isSkippable then
      (intake.countFailed, if settings.strict then some failure else none)
    else (intake, some failure)

/-- Take a raw record in: read it as an event, then take the event in. -/
def record (settings : Settings) (intake : Intake) (record : Payload) : Changed Intake :=
  let (reads, reading) := readRecord settings.strict intake.reads record
  let intake := { intake with reads }
  match reading with
  | .ok (some event) => intake.event settings event
  | .ok none => (intake.countFailed, none)
  | .error failure => (intake, some failure)

/-- Take raw records in. -/
def records (settings : Settings) (intake : Intake) (items : List Payload) :
    Changed Intake :=
  Changed.fold (record settings) intake items

/-- Take events in. -/
def events (settings : Settings) (intake : Intake) (items : List Event) :
    Changed Intake :=
  Changed.fold (event settings) intake items

end Intake

end SparkLog
