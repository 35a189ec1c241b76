import SparkLog.Listing.Information
import SparkLog.Distinct
import SparkLog.Text.Split

/-!
# Qualification

How much of the time of an application went to queries that an accelerator could take over. A
query counts with its full duration, or with nothing if it contains a dataset operation; queries
of jobs that did not succeed are left out. The score is the share of the queries that count in the
duration of the application, in percent.
-/

namespace SparkLog.Listing

/-- The queries of jobs without success, in increasing order. -/
def unsuccessfulQueries (store : Store) : List Int :=
  Metrics.increasing <| store.jobs.values.filterMap fun job =>
    if job.result = some Job.success then none else job.query

/-- The queries that are not left out, by identifier. -/
def includedQueries (store : Store) : List Query :=
  let excluded := unsuccessfulQueries store
  ((sortedQueries store).filter fun entry => !excluded.contains entry.1).map Prod.snd

/-- The columns of the details of a qualification. -/
def detailColumns : List String :=
  ["appIndex", "appID", "appName", "sqlID", "description", "dfDuration", "appDuration",
    "appEndDurationEstimated", "potentialProblems", "executorCPUTime", "executorRunTime"]

/-- One row per query that is not left out. -/
def qualificationDetails (store : Store) (index : Int) : Table :=
  let times := store.queryTimes
  Table.ofRowsOr detailColumns "No Qualification Details Found!" <|
    match store.application with
    | none => []
    | some a =>
      (includedQueries store).map fun query =>
        let time := times.find? query.id
        [.int index, .text a.id, .text a.name, .int query.id, .text query.description,
          .int query.qualifyingDuration, .ofOption .int a.duration, .bool a.estimated,
          .ofOption .text query.problems, .ofOption .int (time.map Prod.fst),
          .ofOption .int (time.map Prod.snd)]

/-- The columns of the summary of a qualification. -/
def summaryColumns : List String :=
  ["appIndex", "App Name", "App ID", "Score", "Potential Problems", "SQL Dataframe Duration",
    "App Duration", "Executor CPU Time Percent", "App Duration Estimated"]

/-- The share of a duration in that of the application in percent, rounded to two places; none
where that of the application is unknown or zero. -/
def scoreOf (qualifying : Int) (duration : Option Int) : Except Failure (Option Binary64) :=
  match duration with
  | none | some 0 => .ok none
  | some duration => do
    let share ← Payload.divideInts (qualifying * 100) duration
    some <$> Metrics.figure (Decimal.roundFloat? share 2)

/-- The problems that a query names, separated by commas. -/
def namedProblems (query : Query) : List String :=
  ((Text.pieces ',' (query.problems.getD "").toList).map String.ofList).filter (· != "")

/-- The distinct problems of queries in order of appearance. -/
def distinctProblems (queries : List Query) : List String :=
  distinct (queries.flatMap namedProblems)

/-- The summary of an application in one row. -/
def qualificationSummary (store : Store) (index : Int) : Except Failure Table :=
  match store.application with
  | none => .ok (.noData summaryColumns "No Application Information Found!")
  | some a => do
    let queries := includedQueries store
    let qualifying := total (queries.map Query.qualifyingDuration)
    let score ← scoreOf qualifying a.duration
    let times := queries.map fun query => (store.queryTimes.find? query.id).getD (0, 0)
    let share ← Metrics.cpuShare (.int (total (times.map Prod.fst)))
      (.int (total (times.map Prod.snd)))
    return Table.ofRows summaryColumns
      [[.int index, .text a.name, .text a.id, .ofOption .float score,
        .text (",".intercalate (distinctProblems queries)), .int qualifying,
        .ofOption .int a.duration, .ofOption .float share, .bool a.estimated]]

/-- The score of an application, missing where it has none. -/
def score (store : Store) (index : Int) : Except Failure Cell := do
  let table ← qualificationSummary store index
  return ((table.rows.head?).bind fun row => row[3]?).getD .missing

/-- Whether one score stands before another: the higher first, missing scores last. -/
def scoreLe : Cell → Cell → Bool
  | .float x, .float y => Binary64.compare? x y != some .lt
  | .float _, _ => true
  | _, .float _ => false
  | _, _ => true

/-- The summaries of several applications in one table, the highest score first; rows of equal
score keep their order. -/
def rankSummaries (tables : List Table) : Table :=
  let tables := tables.filter (!·.isEmpty)
  if tables.isEmpty then .noData summaryColumns "No Applications Qualified!"
  else
    let table := Table.concat summaryColumns tables
    { table with
      rows := table.rows.mergeSort fun a b => scoreLe (a.getD 3 .missing) (b.getD 3 .missing) }

end SparkLog.Listing
