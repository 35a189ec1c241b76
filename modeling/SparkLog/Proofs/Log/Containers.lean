import Mathlib.Data.List.Induction
import SparkLog.Analysis
import SparkLog.Proofs.Ingestion.Runs
import SparkLog.Proofs.Log.Reading
import SparkLog.Proofs.Payload.LineEnds

/-!
# Where records come from

An application is analysed alike from a log of one document per line, from a log that is one list,
and from its records themselves (`Analysis.of_containers`), except that records that are left out
count as failed events only where records are given. A run over records reads each before it takes
it in, a run over a log reads all of them first; both meet behind every record
(`Intake.records_meet`).
-/

namespace SparkLog

/-! ## Reading lines and lists -/

/-- A line that is a document is a record. -/
theorem LogRun.line_eq_record {strict : Bool} {run : LogRun} {cs : List Char} {record : Payload}
    (h : Payload.read cs = .ok record) : run.line strict cs = run.record strict record := by
  cases hfailure : run.failure with
  | none => simp only [LogRun.line, hfailure, h]
  | some failure => simp only [LogRun.line, LogRun.record, hfailure]

/-- Lines that are documents are read as the records that these are. -/
theorem LogRun.fold_lines {strict : Bool} {run : LogRun} {lines : List (List Char)}
    {records : List Payload} (h : lines.map Payload.read = records.map .ok) :
    lines.foldl (LogRun.line strict) run = records.foldl (LogRun.record strict) run := by
  induction lines generalizing run records with
  | nil =>
      obtain rfl : records = [] := List.map_eq_nil_iff.mp h.symm
      rfl
  | cons cs rest ih =>
      cases records with
      | nil => cases h
      | cons record others =>
          obtain ⟨hfirst, hrest⟩ := List.cons.inj h
          rw [List.foldl_cons, List.foldl_cons, line_eq_record hfirst, ih hrest]

/-- A log of one document per line is read as its records. -/
theorem read_log_lines {strict : Bool} {text : String} {records : List Payload}
    (hstart : text.toList.head? ≠ some '[')
    (hlines : (Log.contentLines (Log.unifyLineEnds text.toList)).map Payload.read =
      records.map .ok) :
    readLog strict text = readRecords strict records := by
  unfold readLog
  simp only
  split
  · rename_i rest hunified
    obtain ⟨before, hbefore, -⟩ := Log.unify_eq_cons (by decide) hunified
    rw [hbefore] at hstart
    exact absurd rfl hstart
  · exact LogRun.fold_lines hlines

/-- A log that is one list is read as its records. -/
theorem read_log_list {strict : Bool} {text : String} {records : List Payload}
    (hstart : text.toList.head? = some '[')
    (hlist : Payload.read text.toList = .ok (.list records)) :
    readLog strict text = readRecords strict records := by
  obtain ⟨rest, htext⟩ := List.head?_eq_some_iff.mp hstart
  have hunified := Payload.read_unify_line_ends hlist
  rw [htext, Log.unify_cons (by decide)] at hunified
  simp only [readLog, htext, Log.unify_cons (by decide : '[' ≠ '\r'), readList, hunified]

/-! ## Reading first and reading one by one -/

/-- A reader that has stopped stays where it is. -/
theorem LogRun.record_of_stopped {strict : Bool} {run : LogRun} {failure : Failure}
    (h : run.failure = some failure) (record : Payload) : run.record strict record = run := by
  simp only [LogRun.record, h]

/-- A record adds what is read from it to the events. -/
theorem LogRun.record_events (run : LogRun) (strict : Bool) (record : Payload) :
    ∃ events, (run.record strict record).events = run.events ++ events := by
  cases hfailure : run.failure with
  | some failure =>
      rw [record_of_stopped hfailure]
      exact ⟨[], (List.append_nil _).symm⟩
  | none =>
      simp only [LogRun.record, hfailure]
      cases (readRecord strict run.counts record).2 with
      | error failure => exact ⟨[], (List.append_nil _).symm⟩
      | ok found =>
          cases found with
          | none => exact ⟨[], (List.append_nil _).symm⟩
          | some event => exact ⟨[event], rfl⟩

/-- Counts with more failed events. -/
def IngestCounts.addFailed (counts : IngestCounts) (failed : Nat) : IngestCounts :=
  { counts with failed := counts.failed + failed }

namespace Intake

variable {settings : Settings}

/-- The intake that read its records itself: what was left out counts as failed. -/
def withReads (intake : Intake) (reads : ReadCounts) : Intake :=
  { intake with counts := intake.counts.addFailed reads.failed, reads }

/-- An event is taken in whoever read it. -/
theorem event_with_reads (intake : Intake) (reads : ReadCounts) (event : Event) :
    (intake.withReads reads).event settings event =
      ((intake.event settings event).1.withReads reads, (intake.event settings event).2) := by
  have hfailed :
      intake.counts.failed + reads.failed + 1 = intake.counts.failed + 1 + reads.failed :=
    Nat.add_right_comm _ _ _
  unfold Intake.event
  simp only [withReads]
  cases happly : intake.store.apply settings event with
  | mk store failure =>
      cases event.content with
      | other => rfl
      | _ =>
          cases failure with
          | none => rfl
          | some cause =>
              simp only
              split
              · simp only [countFailed, IngestCounts.addFailed, hfailed]
              · rfl

/-- What an intake of records has come to, where a reader has come to `run` and the intake of its
events to `fed`: what stopped the intake of events counts before what stopped the reader. -/
structure Meet (run : LogRun) (fed direct : Changed Intake) : Prop where
  failure : direct.2 = fed.2.or run.failure
  intake : direct.2 = none → direct.1 = fed.1.withReads run.counts

/-- Where the intake of records has been stopped, both meet behind one more record. The reader goes
on where the intake of events has been stopped, but what stopped this counts first. -/
theorem record_meet_of_stopped {run : LogRun} {fed : Changed Intake} {intake : Intake}
    {cause : Failure} (hmeet : Meet run fed (intake, some cause)) (record : Payload) :
    ∃ events, (run.record false record).events = run.events ++ events ∧
      Meet (run.record false record)
        (fed.andThen fun intake => Intake.events settings intake events) (intake, some cause) := by
  obtain ⟨before, failed⟩ := fed
  have hfailure : some cause = failed.or run.failure := hmeet.failure
  cases failed with
  | some first =>
      obtain ⟨events, hevents⟩ := run.record_events false record
      exact ⟨events, hevents, hfailure, nofun⟩
  | none =>
      have hstop : run.failure = some cause := hfailure.symm
      rw [LogRun.record_of_stopped hstop]
      exact ⟨[], (List.append_nil _).symm, hfailure, nofun⟩

/-- Where nothing has been stopped, both meet behind one more record: an event, one that is left
out, or one that stops them. -/
theorem record_meet_of_going (hlenient : settings.strict = false) {run : LogRun}
    (hgoes : run.failure = none) (before : Intake) (record : Payload) :
    ∃ events, (run.record false record).events = run.events ++ events ∧
      Meet (run.record false record) (Intake.events settings before events)
        ((before.withReads run.counts).record settings record) := by
  obtain ⟨reads, ⟨hfailed, event, hread⟩ | ⟨hfailed, failure, hread⟩ | ⟨failure, hread⟩⟩ :=
    read_record_cases run.counts record
  · have hrun : run.record false record =
        { run with counts := reads, events := run.events ++ [event] } := by
      simp only [LogRun.record, hgoes, hread, LogRun.take]
    have hrecord : (before.withReads run.counts).record settings record =
        (before.withReads reads).event settings event := by
      simp only [Intake.record, withReads, hread, hfailed]
    have hevents : Intake.events settings before [event] = before.event settings event :=
      Changed.fold_singleton
    rw [hrun]
    refine ⟨[event], rfl, ?_⟩
    rw [hrecord, event_with_reads, hevents]
    exact ⟨by rw [hgoes, Option.or_none], fun _ => rfl⟩
  · have hrun : run.record false record = { run with counts := reads } := by
      simp only [LogRun.record, hgoes, hread, LogRun.take, Bool.false_eq_true, if_false]
    have hrecord : (before.withReads run.counts).record settings record =
        (before.withReads reads, none) := by
      simp only [Intake.record, withReads, hread, hlenient, Bool.false_eq_true, if_false,
        countFailed, IngestCounts.addFailed, hfailed, Nat.add_assoc]
    rw [hrun]
    refine ⟨[], (List.append_nil _).symm, ?_⟩
    rw [hrecord]
    exact ⟨by rw [hgoes]; rfl, fun _ => rfl⟩
  · have hrun : run.record false record =
        { run with counts := reads, failure := some failure } := by
      simp only [LogRun.record, hgoes, hread, LogRun.take]
    have hrecord : ((before.withReads run.counts).record settings record).2 = some failure := by
      simp only [Intake.record, withReads, hread]
    rw [hrun]
    refine ⟨[], (List.append_nil _).symm, hrecord, fun hcomplete => ?_⟩
    rw [hrecord] at hcomplete
    cases hcomplete

/-- Both meet behind one more record. -/
theorem record_meet (hlenient : settings.strict = false) {run : LogRun}
    {fed direct : Changed Intake} (hmeet : Meet run fed direct) (record : Payload) :
    ∃ events, (run.record false record).events = run.events ++ events ∧
      Meet (run.record false record)
        (fed.andThen fun intake => Intake.events settings intake events)
        (direct.andThen fun intake => intake.record settings record) := by
  obtain ⟨intake, stopped⟩ := direct
  cases stopped with
  | some cause => exact record_meet_of_stopped hmeet record
  | none =>
      obtain ⟨before, failed⟩ := fed
      obtain ⟨hfailure, hintake⟩ := hmeet
      obtain ⟨rfl, hgoes⟩ := Option.or_eq_none_iff.mp hfailure.symm
      obtain rfl : intake = before.withReads run.counts := hintake rfl
      exact record_meet_of_going hlenient hgoes before record

/-- Behind every record, the intake of records has come to where the reader and the intake of its
events have. -/
theorem records_meet (hlenient : settings.strict = false) (items : List Payload) :
    Meet (readRecords false items) (Intake.events settings {} (readRecords false items).events)
      (Intake.records settings {} items) := by
  induction items using List.reverseRecOn with
  | nil => exact ⟨rfl, fun _ => rfl⟩
  | append_singleton items record ih =>
      obtain ⟨events, hevents, hmeet⟩ := record_meet hlenient ih record
      have hrun : readRecords false (items ++ [record]) =
          (readRecords false items).record false record := by
        simp only [readRecords, List.foldl_append, List.foldl_cons, List.foldl_nil]
      rw [hrun, hevents, Intake.records, Changed.fold_concat, Intake.events, Changed.fold_append]
      exact hmeet

end Intake

namespace Analysis

/-- The analysis that counts records that were left out as failed events. -/
def countLeftOut (analysis : Analysis) : Analysis :=
  { analysis with counts := analysis.counts.addFailed analysis.reads.failed }

/-- Where a log is read as records, its analysis is that of the records, up to what counts as a
failed event. -/
theorem of_records_eq_of_log {settings : Settings} (hlenient : settings.strict = false)
    (index : Int) {records : List Payload} {text : String}
    (htext : readLog false text = readRecords false records) :
    ofRecords settings index records = (ofLog settings index text).map countLeftOut := by
  obtain ⟨hfailure, hintake⟩ := Intake.records_meet hlenient records
  simp only [ofRecords, ofLog, hlenient, htext, ← hfailure]
  cases hdirect : Intake.records settings {} records with
  | mk direct failure =>
      cases failure with
      | some failure => rfl
      | none =>
          rw [hdirect] at hintake
          obtain rfl := hintake rfl
          simp only [ofIntake, Intake.withReads]
          cases (Intake.events settings {} (readRecords false records).events).1.store.derive <;>
            rfl

/-- An application is analysed alike from a log of one document per line, from a log that is one
list, and from the records themselves, where those that are left out count as failed events too. -/
theorem of_containers {settings : Settings} (hlenient : settings.strict = false) (index : Int)
    {records : List Payload} {lines list : String} (hlines : lines.toList.head? ≠ some '[')
    (hdocuments : (Log.contentLines (Log.unifyLineEnds lines.toList)).map Payload.read =
      records.map .ok)
    (hlist : list.toList.head? = some '[')
    (hrecords : Payload.read list.toList = .ok (.list records)) :
    ofLog settings index list = ofLog settings index lines ∧
      ofRecords settings index records = (ofLog settings index lines).map countLeftOut := by
  have hread : readLog false lines = readRecords false records := read_log_lines hlines hdocuments
  refine ⟨?_, of_records_eq_of_log hlenient index hread⟩
  simp only [ofLog, hlenient, hread, read_log_list hlist hrecords]

/-- The start of a log, and a record of no kind. -/
def startAndNull : List Payload :=
  [.object [("Event", .text "SparkListenerLogStart"), ("Spark Version", .text "3.5.0")], .null]

/-- Both records with one document per line, among blank lines. -/
def startAndNullLines : String :=
  "\r\n\x7b\"Event\":\"SparkListenerLogStart\",\"Spark Version\":\"3.5.0\"\x7d \r\n\r null"

/-- Both records as one list. -/
def startAndNullList : String :=
  "[\x7b\"Event\":\"SparkListenerLogStart\",\r\n\"Spark Version\":\"3.5.0\"\x7d,\r null]\r\n"

/-- The record of no kind is left out in all three, and counts as a failed event where the records
are given. -/
theorem of_containers_start_and_null :
    ofLog {} 1 startAndNullList = ofLog {} 1 startAndNullLines ∧
      ofRecords {} 1 startAndNull = (ofLog {} 1 startAndNullLines).map countLeftOut ∧
      (ofLog {} 1 startAndNullLines).toOption.map (fun analysis =>
        (analysis.store.version, analysis.reads.failed, analysis.counts.failed)) =
          some ("3.5.0", 1, 0) := by
  have hdocuments : (Log.contentLines (Log.unifyLineEnds startAndNullLines.toList)).map
      Payload.read = startAndNull.map .ok := by decide +kernel
  have hrecords : Payload.read startAndNullList.toList = .ok (.list startAndNull) := by
    decide +kernel
  have hlenient : ({} : Settings).strict = false := rfl
  obtain ⟨hlist, hgiven⟩ :=
    of_containers hlenient 1 (by decide +kernel) hdocuments (by decide +kernel) hrecords
  exact ⟨hlist, hgiven, by decide +kernel⟩

end Analysis

end SparkLog
