import SparkLog.Listing.Health
import SparkLog.Listing.Qualification
import SparkLog.Analysis

/-!
# Inquiries

All that can be asked about the store of an application, and how it is answered. Listings and
figures need a closed store; look-ups of recorded facts do not. Metric listings are formed from a
task table, which may be older than the store.
-/

namespace SparkLog

/-- What can be asked about an application. -/
inductive Inquiry where
  | applicationInfo
  | executorInfo
  | properties (source : String) (pattern : Option String)
  | acceleratorProperties
  | jobInfo
  | planMetrics
  | acceleratorJars
  | queryDurations
  | largestValues
  | jobMetrics
  | stageMetrics
  | jobAndStageMetrics
  | queryMetrics
  | queryStagePairs
  | queryTimes
  | failedTasks
  | failedStages
  | failedJobs
  | removedBlockManagers
  | removedExecutors
  | unsupportedNodes
  | shuffleSkew
  | details
  | summary
  | score
  | unsuccessfulQueries
  | includedQueries
  | storeSummary
  | jobsOfStages
  | queriesOfStages
  | propertyValue (source key : String) (default : Option String)
  deriving DecidableEq

/-- An answer: a table, or anything else as a payload. -/
inductive Reply where
  | table (table : Table)
  | value (value : Payload)

namespace Inquiry

/-- Whether an inquiry can be answered before the store is closed. -/
def isOpen : Inquiry → Bool
  | .storeSummary | .jobsOfStages | .queriesOfStages | .propertyValue .. => true
  | _ => false

/-- Whether an inquiry is answered from a task table. -/
def usesTaskTable : Inquiry → Bool
  | .jobMetrics | .stageMetrics | .jobAndStageMetrics | .queryMetrics => true
  | _ => false

/-- A pair as a payload. -/
def pair (a b : Payload) : Payload :=
  .list [a, b]

/-- A table of lists of identifiers as a payload. -/
def idLists (table : Keyed Int (List Int)) : Payload :=
  .list (table.entries.map fun (key, ids) => pair (.int key) (.list (ids.map .int)))

/-- The answer to an inquiry about a closed store, metric listings from a given task table. -/
def answer (store : Store) (settings : Settings) (index : Int) (tasks : List Task) :
    Inquiry → Except Failure Reply
  | .applicationInfo => .ok (.table (Listing.applicationInfo store index))
  | .executorInfo => .ok (.table (Listing.executorInfo store index))
  | .properties source pattern => .table <$> Listing.properties store index source pattern
  | .acceleratorProperties => .table <$> Listing.acceleratorProperties store index
  | .jobInfo => .ok (.table (Listing.jobInfo store index))
  | .planMetrics => .ok (.table (Listing.planMetrics store index))
  | .acceleratorJars => .table <$> Listing.acceleratorJars store index
  | .queryDurations => .table <$> Listing.queryDurations store index
  | .largestValues =>
    .ok <| .value <| .list <| store.largestValues.entries.map fun (key, value) =>
      pair (pair (.int key.1) (.int key.2)) (.int value)
  | .jobMetrics => .table <$> Metrics.jobTable store index tasks
  | .stageMetrics => .table <$> Metrics.stageTable store index tasks
  | .jobAndStageMetrics => .table <$> Metrics.jobAndStageTable store index tasks
  | .queryMetrics => .table <$> Metrics.queryTable store index tasks
  | .queryStagePairs => .ok (.table (Metrics.pairTable store))
  | .queryTimes =>
    .ok <| .value <| .list <| store.queryTimes.entries.map fun (query, cpu, run) =>
      pair (.int query) (pair (.int cpu) (.int run))
  | .failedTasks => .ok (.table (Listing.failedTasks store settings))
  | .failedStages => .ok (.table (Listing.failedStages store settings))
  | .failedJobs => .ok (.table (Listing.failedJobs store settings))
  | .removedBlockManagers => .ok (.table (Listing.removedBlockManagers store))
  | .removedExecutors => .ok (.table (Listing.removedExecutors store settings))
  | .unsupportedNodes => .ok (.table (Listing.unsupportedNodes store settings))
  | .shuffleSkew => .table <$> Listing.shuffleSkew store settings index
  | .details => .ok (.table (Listing.qualificationDetails store index))
  | .summary => .table <$> Listing.qualificationSummary store index
  | .score => (fun cell => .value cell.toPayload) <$> Listing.score store index
  | .unsuccessfulQueries =>
    .ok <| .value <| .list <| (Listing.unsuccessfulQueries store).map .int
  | .includedQueries =>
    .ok <| .value <| .list <| (Listing.includedQueries store).map fun query => .int query.id
  | .storeSummary =>
    .ok <| .value <| .object <| store.summary.map fun (family, count) => (family, .int count)
  | .jobsOfStages => .ok (.value (idLists store.jobsOfStages))
  | .queriesOfStages => .ok (.value (idLists store.queriesOfStages))
  | .propertyValue source key default =>
    let value := (PropertySource.ofName? source).bind fun source => store.property? source key
    .ok (.value (.ofOption .text (value.or default)))

/-- The answer to an inquiry, or why there is none yet. -/
def ask (store : Store) (settings : Settings) (index : Int) (tasks : List Task)
    (inquiry : Inquiry) : Except Failure Reply :=
  if inquiry.isOpen || store.finalized then inquiry.answer store settings index tasks
  else .error (.notFinalized index)

end Inquiry

/-- The answer to an inquiry about an analysed application. -/
def Analysis.ask (analysis : Analysis) (inquiry : Inquiry) : Except Failure Reply :=
  inquiry.ask analysis.store analysis.settings analysis.index analysis.store.tasks

end SparkLog
