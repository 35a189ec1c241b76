import SparkLog.CommandLine.Run

/-!
# The program

The named logs are read from the file system, the run is carried out on them, and what it printed
and wrote is brought out. All decisions are those of `CommandLine.run`.
-/

namespace SparkLog.CommandLine

/-- How the program is called. -/
def usageLine : String :=
  "usage: [-h] [--mode profiling|qualification] [--output DIRECTORY] [--num-output-rows N] " ++
    "[--generate-dot] [--max-workers N] [--strict] [--progress] [-v] LOG ..."

/-- The text of a log, if it is a file that can be read. -/
def loadLog (name : String) : IO (Option (String × String)) := do
  try
    return some (name, ← IO.FS.readFile name)
  catch _ =>
    return none

/-- Write the files of a disk that another one does not have with the same text. -/
def saveChanges (before after : Disk) : IO Unit := do
  for (path, text) in after.files.entries do
    unless before.files.find? path == some text do
      IO.FS.createDirAll path.parent.text
      IO.FS.writeFile path.text text

/-- Carry out a run and bring out what it did. -/
def carryOut (arguments : Arguments) : IO UInt32 := do
  let logs ← arguments.logs.filterMapM loadLog
  let disk := Disk.ofFiles logs
  let outcome := runWith arguments disk
  saveChanges disk outcome.disk
  IO.print outcome.printed
  IO.eprint outcome.complaints
  match outcome.status with
  | .ok status => return status.toUInt32
  | .error failure =>
    IO.eprintln failure.message
    return 1

end SparkLog.CommandLine

/-- Run the program on a command line. -/
def main (line : List String) : IO UInt32 := do
  match SparkLog.CommandLine.read line with
  | .ok arguments => SparkLog.CommandLine.carryOut arguments
  | .error stop =>
    IO.eprintln SparkLog.CommandLine.usageLine
    return stop.status.toUInt32
