import SparkLog.Event.Schema
import SparkLog.Payload.Reader
import SparkLog.Log.Lines
import SparkLog.Keyed

/-!
# Reading logs

A log is a document per line, or one list of records. Each record is read as an event, or left out
and counted; a strict reader stops at the first record that cannot be read. What was counted up to
a failure stays counted.
-/

namespace SparkLog

/-- What a reader counts: records met, events read, records left out, and records by the event name
that they carry. -/
structure ReadCounts where
  total : Nat := 0
  parsed : Nat := 0
  failed : Nat := 0
  types : Keyed Scalar Nat := .empty
  deriving DecidableEq

namespace ReadCounts

/-- Count one more record. -/
def countRecord (counts : ReadCounts) : ReadCounts :=
  { counts with total := counts.total + 1 }

/-- Count one more record that is left out. -/
def countFailed (counts : ReadCounts) : ReadCounts :=
  { counts with failed := counts.failed + 1 }

/-- Count one more event that was read. -/
def countParsed (counts : ReadCounts) : ReadCounts :=
  { counts with parsed := counts.parsed + 1 }

/-- Count one more record of an event name. -/
def countType (counts : ReadCounts) (name : Scalar) : ReadCounts :=
  let seen := (counts.types.findBy? Scalar.agrees name).getD 0
  { counts with types := counts.types.insertBy Scalar.agrees name (seen + 1) }

end ReadCounts

/-- What becomes of a record: an event, nothing, or a failure that stops the reader. -/
abbrev Reading := Except Failure (Option Event)

/-- Leave a record out: a strict reader stops there. -/
def leaveOut (strict : Bool) (failure : Failure) (counts : ReadCounts) : ReadCounts × Reading :=
  (counts.countFailed, if strict then .error failure else .ok none)

/-- The fields and the name of an event record, if it has a name. -/
def namedRecord? : Payload → Option (Fields × Payload)
  | .object fields =>
    match Fields.get? fields "Event" with
    | some name => if name.isTruthy then some (fields, name) else none
    | none => none
  | _ => none

/-- Read one record. A name that is no key, or no text, is a failure for any reader. -/
def readRecord (strict : Bool) (counts : ReadCounts) (record : Payload) : ReadCounts × Reading :=
  let counts := counts.countRecord
  match namedRecord? record with
  | none => leaveOut strict .unnamedEvent counts
  | some (fields, name) =>
    match Scalar.ofPayload name with
    | .error failure => (counts, .error failure)
    | .ok key =>
      let counts := counts.countType key
      match key with
      | .text name =>
        match Event.ofFields name (normalize fields) with
        | .ok event => (counts.countParsed, .ok (some event))
        | .error failure => leaveOut strict failure counts
      | _ => (counts, (EventKind.shortNameOf name).map fun _ => none)

/-- The state of a reader: its counts, the events read so far, and what stopped it. -/
structure LogRun where
  counts : ReadCounts := {}
  events : List Event := []
  failure : Option Failure := none

namespace LogRun

/-- Take in what became of a record. -/
def take (run : LogRun) (counts : ReadCounts) : Reading → LogRun
  | .ok (some event) => { run with counts, events := run.events ++ [event] }
  | .ok none => { run with counts }
  | .error failure => { run with counts, failure := some failure }

/-- Read the next record, unless the reader has stopped. -/
def record (strict : Bool) (run : LogRun) (payload : Payload) : LogRun :=
  match run.failure with
  | some _ => run
  | none =>
    let (counts, reading) := readRecord strict run.counts payload
    run.take counts reading

/-- Read the next line, unless the reader has stopped. A line that is no document is a record that
is left out; a line past the limits of what is read stops any reader, before it counts. -/
def line (strict : Bool) (run : LogRun) (cs : List Char) : LogRun :=
  match run.failure with
  | some _ => run
  | none =>
    match Payload.read cs with
    | .ok payload => run.record strict payload
    | .error failure =>
      if failure.isMalformed then
        let (counts, reading) := leaveOut strict failure run.counts.countRecord
        run.take counts reading
      else { run with failure := some failure }

end LogRun

/-- Read records one after the other. -/
def readRecords (strict : Bool) (records : List Payload) : LogRun :=
  records.foldl (LogRun.record strict) {}

/-- Read a list of records written as one document. A strict reader stops at a text that is no
document, where any other finds no record; a document past the limits of what is read stops both. -/
def readList (strict : Bool) (cs : List Char) : LogRun :=
  match Payload.read cs with
  | .ok (.list records) => readRecords strict records
  | .ok _ => {}
  | .error failure =>
    { failure := if strict || !failure.isMalformed then some failure else none }

/-- Read the text of a log. -/
def readLog (strict : Bool) (text : String) : LogRun :=
  let cs := Log.unifyLineEnds text.toList
  match cs with
  | '[' :: _ => readList strict cs
  | _ => (Log.contentLines cs).foldl (LogRun.line strict) {}

end SparkLog
