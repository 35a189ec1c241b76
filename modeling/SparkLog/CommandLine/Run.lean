import SparkLog.CommandLine.Arguments
import SparkLog.Report.Files
import SparkLog.Batch

/-!
# Runs

What the program does for a command line on a disk: it analyses the logs, writes the report that is
asked for, and tells what it did. Applications that cannot be analysed are told apart from what is
printed about the others, and show in the status.
-/

namespace SparkLog.CommandLine

/-- What a run did: its status or what stopped it, what it printed and what it complained about,
and the disk as it left it. -/
structure Outcome where
  status : Except Failure Nat
  printed : String := ""
  complaints : String := ""
  disk : Disk

/-- The words over what a run prints. -/
def banner (mode : Mode) : String :=
  let rule := String.ofList (List.replicate 80 '=') ++ "\n"
  rule ++ "SPARK EVENT PROFILER - " ++ mode.name.toUpper ++ "\n" ++ rule

/-- The line that counts the applications which could be analysed. -/
def countLine (analyzed given : Nat) : String :=
  s!"\nAnalyzed {Decimal.intText analyzed} of {Decimal.intText given} application(s)\n"

/-- The line about an application that could not be analysed. -/
def failureLine (failed : SourceFailure) : String :=
  s!"   Application {Decimal.intText failed.index} failed: {failed.label}: " ++
    failed.failure.message ++ "\n"

/-- The line about a file that was written. -/
def pathLine (path : String) : String :=
  "   Wrote " ++ path ++ "\n"

/-- Write the report that is asked for, with what is printed on the way. -/
def writeReport (mode : Mode) (settings : Settings) (analyses : List Analysis) (disk : Disk) :
    Report.Writing × String :=
  match mode with
  | .profiling => (Report.writeProfile settings analyses disk, "")
  | .qualification =>
    let (writing, text) := Report.writeQualification settings analyses disk
    (writing, (text.map (· ++ "\n")).getD "")

/-- The end of a run in which some applications could be analysed. -/
def finish (mode : Mode) (settings : Settings) (batch : Batch) (printed complaints : String)
    (disk : Disk) : Outcome :=
  let (writing, text) := writeReport mode settings batch.analyses disk
  let printed := printed ++ text
  match writing.failure with
  | some failure => { status := .error failure, printed, complaints, disk := writing.disk }
  | none =>
    { status := .ok (if batch.failures.isEmpty then 0 else 1)
      printed := printed ++ "".intercalate (writing.paths.map pathLine)
      complaints
      disk := writing.disk }

/-- Run with arguments that were read. -/
def runWith (arguments : Arguments) (disk : Disk) : Outcome :=
  match arguments.settings with
  | .error failure => { status := .error failure, disk }
  | .ok settings =>
    let batch := Batch.analyze settings (arguments.logs.map fun name => .log name (disk.read name))
    let printed :=
      banner arguments.mode ++ countLine batch.analyses.length arguments.logs.length
    let complaints := "".intercalate (batch.failures.map failureLine)
    if batch.analyses.isEmpty then
      { status := .ok 1, printed, disk
        complaints := complaints ++ "No application could be analyzed\n" }
    else finish arguments.mode settings batch printed complaints disk

/-- Run a command line on a disk, unless the command line ends the program. -/
def run (line : List String) (disk : Disk) : Except Stop Outcome :=
  return runWith (← read line) disk

end SparkLog.CommandLine
