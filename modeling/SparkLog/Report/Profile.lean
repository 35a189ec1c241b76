import SparkLog.Inquiry
import SparkLog.Table.Render

/-!
# Profile reports

A profile report has a section per listing, and in each section the tables of all applications.
-/

namespace SparkLog.Report

/-- The sections of a profile report: a header and what is asked. -/
def sections : List (String × Inquiry) :=
  [ ("Application Information", .applicationInfo),
    ("Executor Information", .executorInfo),
    ("Accelerator Properties Set Explicitly", .acceleratorProperties),
    ("Accelerator Jar and cuDF Jar", .acceleratorJars),
    ("Job Information", .jobInfo),
    ("SQL Plan Metrics for Application", .planMetrics),
    ("Job + Stage level aggregated task metrics", .jobAndStageMetrics),
    ("SQL level aggregated task metrics", .queryMetrics),
    ("SQL Duration and Executor CPU Time Percent", .queryDurations),
    ("Shuffle Skew Check", .shuffleSkew),
    ("Failed tasks", .failedTasks),
    ("Failed stages", .failedStages),
    ("Failed jobs", .failedJobs),
    ("Removed BlockManagers", .removedBlockManagers),
    ("Removed Executors", .removedExecutors),
    ("Unsupported SQL Plan", .unsupportedNodes) ]

/-- The text of an answer; everything that a section asks is answered by a table. -/
def replyText (limit : Int) : Reply → String
  | .table table => table.render limit
  | .value _ => ""

/-- The text of a section over several applications. -/
def sectionText (analyses : List Analysis) (limit : Int) (header : String) (inquiry : Inquiry) :
    Except Failure String := do
  let texts ← analyses.mapM fun analysis => do
    let reply ← analysis.ask inquiry
    return replyText limit reply ++ "\n"
  return "\n" ++ header ++ ":\n" ++ "".intercalate texts

/-- The text of a profile report over several applications. -/
def profile (analyses : List Analysis) (limit : Int) : Except Failure String := do
  let texts ← sections.mapM fun (header, inquiry) => sectionText analyses limit header inquiry
  return "".intercalate texts

/-- The heading of the plan of a query. -/
def planHeading (query : Int) : String :=
  "\n=============================\nPlan for SQL ID : " ++ Decimal.intText query ++
    "\n=============================\n"

/-- The plans of all queries as the log describes them, by query. -/
def planTexts (store : Store) : String :=
  "".intercalate <| (sortByKeys (fun entry => [entry.1]) store.planTexts.entries).map
    fun (query, text) => planHeading query ++ text

end SparkLog.Report
