import SparkLog.Inquiry
import SparkLog.Store.Snapshot

/-!
# Sessions

A session works on one store step by step: events come in one at a time, and correlation, plan
analysis, closing and inquiries can happen at any point. The first metric inquiry on a closed
store keeps the task table for those that follow, until the store is closed again.
-/

namespace SparkLog

/-- A step of a session. -/
inductive SessionStep where
  /-- Take a raw record in. -/
  | record (payload : Payload)
  /-- Read a record apart from the session and take the event in. -/
  | event (payload : Payload)
  | correlate
  | estimate
  | analyze
  | finalize
  | inquire (inquiry : Inquiry)

/-- What a step answers. -/
inductive StepReply where
  /-- The names of the ingestion counters that moved. -/
  | counted (names : List String)
  | correlated (counts : CorrelationCounts)
  | estimated (time : Option Int)
  | done
  | reply (reply : Reply)
  | failed (failure : Failure)

/-- A session: the number of its application, its settings, its intake, and the task table that
was kept. -/
structure Session where
  index : Int := 1
  settings : Settings := {}
  intake : Intake := {}
  taskTable : Option (List Task) := none

namespace IngestCounts

/-- The counters that differ from an earlier count, by name. -/
def moved (before after : IngestCounts) : List String :=
  (if before.handled = after.handled then [] else ["handled_events"]) ++
    (if before.other = after.other then [] else ["other_events"]) ++
    (if before.failed = after.failed then [] else ["failed_events"])

end IngestCounts

namespace Session

/-- The store of a session. -/
def store (session : Session) : Store :=
  session.intake.store

/-- A session with another store. -/
def withStore (session : Session) (store : Store) : Session :=
  { session with intake := { session.intake with store } }

/-- The session after an intake, and what it answers. -/
def afterIntake (session : Session) (outcome : Changed Intake) : Session × StepReply :=
  let reply :=
    match outcome.2 with
    | some failure => .failed failure
    | none => .counted (session.intake.counts.moved outcome.1.counts)
  ({ session with intake := outcome.1 }, reply)

/-- Take in an event that is read apart from the session. A record without an event is left to the
session itself, which finds nothing in it either. -/
def takeEvent (session : Session) (payload : Payload) : Session × StepReply :=
  match (readRecord false {} payload).2 with
  | .ok (some event) => session.afterIntake (session.intake.event session.settings event)
  | .ok none => session.afterIntake (session.intake.record session.settings .null)
  | .error failure => (session, .failed failure)

/-- The task table that metric inquiries use. -/
def tasks (session : Session) : List Task :=
  session.taskTable.getD session.store.tasks

/-- Whether an inquiry forms a task table, which is kept then. -/
def formsTaskTable (session : Session) (inquiry : Inquiry) : Bool :=
  inquiry.usesTaskTable && session.store.finalized

/-- Answer an inquiry. -/
def inquire (session : Session) (inquiry : Inquiry) : Session × StepReply :=
  let reply :=
    match inquiry.ask session.store session.settings session.index session.tasks with
    | .ok reply => .reply reply
    | .error failure => .failed failure
  if session.formsTaskTable inquiry then
    ({ session with taskTable := some session.tasks }, reply)
  else (session, reply)

/-- Take a step. -/
def step (session : Session) : SessionStep → Session × StepReply
  | .record payload => session.afterIntake (session.intake.record session.settings payload)
  | .event payload => session.takeEvent payload
  | .correlate =>
    match session.store.correlate with
    | (store, none) => (session.withStore store, .correlated store.correlationCounts)
    | (store, some failure) => (session.withStore store, .failed failure)
  | .estimate => (session, .estimated session.store.estimatedFinish)
  | .analyze => (session.withStore session.store.analyze, .done)
  | .finalize => ({ session.withStore session.store.finalize with taskTable := none }, .done)
  | .inquire inquiry => session.inquire inquiry

/-- Take steps one after the other; every step answers, and tells which families of the store it
changed. -/
def run (session : Session) : List SessionStep → Session × List (StepReply × Fields)
  | [] => (session, [])
  | step :: rest =>
    let (next, reply) := session.step step
    let (last, replies) := run next rest
    (last, (reply, session.store.changes next.store) :: replies)

end Session

end SparkLog
