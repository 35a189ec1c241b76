import SparkLog.Store.Ingest
import SparkLog.Store.Correlate
import SparkLog.Store.Analyze

/-!
# The analysis of an application

An application is analysed in one go: its events are taken in, starts are paired with ends, plans
are analysed, and the store is closed. Its records come from a log or are given directly.
-/

namespace SparkLog

/-- The derived fields of a store filled in, and the store closed for queries. -/
def Store.derive (store : Store) : Except Failure Store :=
  match store.correlate with
  | (store, none) => .ok store.analyze.finalize
  | (_, some failure) => .error failure

/-- An analysed application: the number that tells it from others of the same run, its settings,
its closed store, and what reading and ingestion counted. -/
structure Analysis where
  index : Int
  settings : Settings
  store : Store
  reads : ReadCounts
  counts : IngestCounts

namespace Analysis

/-- The analysis that follows from an intake, unless something stopped it. -/
def ofIntake (settings : Settings) (index : Int) (reads : ReadCounts) :
    Changed Intake → Except Failure Analysis
  | (_, some failure) => .error failure
  | (intake, none) => do
    let store ← intake.store.derive
    return { index, settings, store, reads, counts := intake.counts }

/-- Analyse an application whose records are given. -/
def ofRecords (settings : Settings) (index : Int) (records : List Payload) :
    Except Failure Analysis :=
  let outcome := Intake.records settings {} records
  ofIntake settings index outcome.1.reads outcome

/-- Analyse an application from the text of its log. Events before a record that stops the reader
are taken in first, so a failure among them comes first. -/
def ofLog (settings : Settings) (index : Int) (text : String) : Except Failure Analysis :=
  let run := readLog settings.strict text
  let (intake, failure) := Intake.events settings {} run.events
  ofIntake settings index run.counts (intake, failure.or run.failure)

end Analysis

end SparkLog
