import SparkLog.Report.Profile
import SparkLog.Report.Disk
import SparkLog.Table.Exchange
import SparkLog.Plan.Dot

/-!
# Report files

A profile is written as one report over all applications, and per application a file with its plan
descriptions and, if asked for, a drawing of every plan. A qualification is written as a table of
comma-separated values and as records. Writing stops at the first file that cannot be written;
those before it stay.
-/

namespace SparkLog.Report

/-- A disk in the course of writing: what was written so far, the paths to be reported, and what
stopped the writing. -/
structure Writing where
  disk : Disk
  paths : List String := []
  failure : Option Failure := none

namespace Writing

/-- Go on with what follows, unless the writing was stopped. -/
def andThen (writing : Writing) (next : Disk → Except Failure Disk) : Writing :=
  match writing.failure with
  | some _ => writing
  | none =>
    match next writing.disk with
    | .ok disk => { writing with disk }
    | .error failure => { writing with failure := some failure }

/-- Make a directory. -/
def makeDirectory (writing : Writing) (path : FilePath) : Writing :=
  writing.andThen fun disk => disk.makeDirectory path

/-- Write a file: it is opened, then its text is formed, then the text is written. -/
def write (writing : Writing) (path : FilePath) (text : Except Failure String) : Writing :=
  let opened := writing.andThen fun disk => disk.write path ""
  opened.andThen fun disk => do disk.write path (← text)

/-- Report the path of a file that was written. -/
def report (writing : Writing) (path : FilePath) : Writing :=
  match writing.failure with
  | some _ => writing
  | none => { writing with paths := writing.paths ++ [path.text] }

end Writing

/-- Write the drawings of all plans of an application. -/
def writeDrawings (analysis : Analysis) (directory : FilePath) (writing : Writing) : Writing :=
  let store := analysis.store
  let values := store.largestValues.entries
  let drawings := sortByKeys (fun entry => [entry.1]) store.graphs.entries
  drawings.foldl
    (fun writing (query, graph) =>
      let name := store.applicationId ++ "-query-" ++ Decimal.intText query ++ ".dot"
      let path := directory.below name
      (writing.write path (.ok (Dot.document graph query store.applicationId values))).report path)
    (writing.makeDirectory directory)

/-- Write the files of one application of a profile. -/
def writeApplication (settings : Settings) (directory : FilePath) (writing : Writing)
    (analysis : Analysis) : Writing :=
  let path := directory.below ("planDescriptions-" ++ analysis.store.applicationId)
  let writing :=
    ((writing.makeDirectory directory).write path (.ok (planTexts analysis.store))).report path
  if settings.graphs then writeDrawings analysis (directory.below "dot") writing else writing

/-- Write a profile of several applications. -/
def writeProfile (settings : Settings) (analyses : List Analysis) (disk : Disk) : Writing :=
  let directory := FilePath.ofText settings.directory
  let path := directory.below "profiling_report.log"
  let start : Writing := { disk }
  let writing :=
    ((start.makeDirectory directory).write path (profile analyses settings.rows)).report path
  analyses.foldl (writeApplication settings directory) writing

/-- The summaries of several applications in one table. -/
def qualification (analyses : List Analysis) : Except Failure Table := do
  let tables ← analyses.mapM fun analysis =>
    Listing.qualificationSummary analysis.store analysis.index
  return Listing.rankSummaries tables

/-- Write a qualification of several applications. The answer is also the text of its table, unless
the table could not be formed. -/
def writeQualification (settings : Settings) (analyses : List Analysis) (disk : Disk) :
    Writing × Option String :=
  let directory := FilePath.ofText settings.directory
  let values := directory.below "qualification_summary.csv"
  let records := directory.below "qualification_summary.json"
  let start : Writing := { disk }
  let writing := start.makeDirectory directory
  match writing.failure, qualification analyses with
  | some _, _ => (writing, none)
  | none, .error failure => ({ writing with failure := some failure }, none)
  | none, .ok table =>
    let writing := (writing.write values (.ok table.separatedValues)).write records
      (.ok (table.records.writeLines 0))
    ((writing.report values).report records, some (table.render settings.rows))

end SparkLog.Report
