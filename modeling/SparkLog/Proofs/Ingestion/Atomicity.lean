import SparkLog.Proofs.Ingestion.Handlers

/-!
# What a failing event leaves behind

An event that fails leaves the store as it was, with one exception: driver updates are recorded
one by one, so the pairs in front of the first update that is no pair stay. `apply_failure_store`
says this of the store, `record_failure_store_eq_iff` of a tolerant intake of a raw record.
-/

namespace SparkLog

/-- The driver updates that an event records even if it fails. -/
def EventContent.leadingUpdates : EventContent → List DriverUpdate
  | .driverUpdates id updates => leadingPairs id updates
  | _ => []

/-- Only driver updates that begin with a pair leave something behind when they fail. -/
theorem EventContent.leading_updates_eq_nil_iff {content : EventContent} :
    content.leadingUpdates = [] ↔
      ∀ id accumulator value rest, content ≠ .driverUpdates id ([accumulator, value] :: rest) := by
  cases content with
  | driverUpdates id updates =>
      refine leading_pairs_eq_nil_iff.trans ⟨fun h other accumulator value rest he => ?_,
        fun h accumulator value rest he => h id accumulator value rest (by rw [he])⟩
      exact h accumulator value rest (EventContent.driverUpdates.inj he).2
  | _ => simp [leadingUpdates]

namespace Store

/-- An event that fails leaves the store as it was but for its leading driver updates. -/
theorem apply_failure_store {settings : Settings} {store : Store} {event : Event}
    {failure : Failure} (hfail : (store.apply settings event).2 = some failure) :
    (store.apply settings event).1 = store.withUpdates event.content.leadingUpdates := by
  obtain ⟨name, content, extras⟩ := event
  cases content with
  | driverUpdates id updates => exact add_driver_updates_store id updates store
  | resourceProfileAdded | jobStart | jobEnd | stageSubmitted | stageCompleted | taskEnd
  | executorAdded | blockManagerAdded | blockManagerRemoved =>
      exact (Changed.of_result_failure hfail).trans (with_updates_nil store).symm
  | _ => cases hfail

end Store

namespace Intake

/-- A tolerant intake counts an event that fails in a skippable way and goes on from the store
that the event leaves behind. -/
theorem event_failure {settings : Settings} (hlenient : settings.strict = false)
    {intake : Intake} {event : Event} {failure : Failure}
    (hfail : (intake.store.apply settings event).2 = some failure)
    (hskip : failure.isSkippable = true) :
    intake.event settings event =
      ({ intake with store := intake.store.withUpdates event.content.leadingUpdates }.countFailed,
        none) := by
  have happly : intake.store.apply settings event =
      (intake.store.withUpdates event.content.leadingUpdates, some failure) :=
    Prod.ext (Store.apply_failure_store hfail) hfail
  have hother := Store.content_ne_other hfail
  simp [Intake.event, happly, hskip, hlenient]

/-- A tolerant intake of a record whose event fails in a skippable way counts one failed event and
keeps the store but for the leading driver updates of the event. So the store stays exactly as it
was unless the event brings driver updates that begin with a pair. -/
theorem record_failure_store_eq_iff {settings : Settings} (hlenient : settings.strict = false)
    (intake : Intake) (record : Payload) {reads : ReadCounts} {event : Event} {failure : Failure}
    (hread : readRecord settings.strict intake.reads record = (reads, .ok (some event)))
    (hfail : (intake.store.apply settings event).2 = some failure)
    (hskip : failure.isSkippable = true) :
    (intake.record settings record).2 = none ∧
      (intake.record settings record).1.counts =
        { intake.counts with failed := intake.counts.failed + 1 } ∧
      (intake.record settings record).1.store =
        intake.store.withUpdates event.content.leadingUpdates ∧
      ((intake.record settings record).1.store = intake.store ↔
        ∀ id accumulator value rest,
          event.content ≠ .driverUpdates id ([accumulator, value] :: rest)) := by
  have hevent : intake.record settings record =
      ({ intake with
          reads, store := intake.store.withUpdates event.content.leadingUpdates }.countFailed,
        none) := by
    unfold Intake.record
    rw [hread]
    exact event_failure hlenient hfail hskip
  rw [hevent]
  exact ⟨rfl, rfl, rfl,
    Store.with_updates_eq_self_iff.trans EventContent.leading_updates_eq_nil_iff⟩

/-- A stage that is submitted with the given information. -/
def submission (info : Fields) : Payload :=
  .object [("Event", .text "SparkListenerStageSubmitted"), ("Stage Info", .object info)]

/-- Updates of the driver for the query one. -/
def reportedUpdates (updates : List Payload) : Payload :=
  .object
    [ ("Event", .text "SparkListenerDriverAccumUpdates"), ("executionId", .int 1),
      ("accumUpdates", .list updates) ]

/-- An intake that holds a stage and an update of the driver. -/
def busyIntake : Intake :=
  let stage := submission [("Stage ID", .int 4), ("Stage Attempt ID", .int 0)]
  ((({} : Intake).record {} stage).1.record {} (reportedUpdates [.list [.int 1, .int 2]])).1

/-- A stage without an identifier fails and leaves the store with what it held. -/
theorem record_unnamed_stage_store :
    busyIntake.store.stages.values.map Stage.id = [4] ∧
      busyIntake.store.driverUpdates = [⟨1, 1, 2⟩] ∧ busyIntake.counts = { handled := 2 } ∧
      (busyIntake.record {} (submission [])).1.store = busyIntake.store ∧
      (busyIntake.record {} (submission [])).1.counts = { handled := 2, failed := 1 } := by
  have hlenient : ({} : Settings).strict = false := rfl
  obtain ⟨-, hcounts, -, hstore⟩ :=
    record_failure_store_eq_iff hlenient busyIntake (submission []) rfl rfl rfl
  exact ⟨by decide +kernel, by decide +kernel, by decide +kernel, hstore.mpr (by simp),
    hcounts.trans (by decide +kernel)⟩

/-- Driver updates of which the second is no pair. -/
def brokenUpdates : Payload :=
  reportedUpdates [.list [.int 1, .int 2], .list [.int 3]]

/-- The event of `brokenUpdates` fails in a skippable way and is counted as failed, but the pair in
front of the broken update stays in the store. -/
theorem record_broken_updates_store :
    ∃ reads event failure,
      readRecord false {} brokenUpdates = (reads, .ok (some event)) ∧
      (Store.apply {} {} event).2 = some failure ∧ failure.isSkippable = true ∧
      (({} : Intake).record {} brokenUpdates).2 = none ∧
      (({} : Intake).record {} brokenUpdates).1.counts = { failed := 1 } ∧
      (({} : Intake).record {} brokenUpdates).1.store.driverUpdates = [⟨1, 1, 2⟩] ∧
      (({} : Intake).record {} brokenUpdates).1.store ≠ ({} : Store) := by
  refine ⟨_, _, _, rfl, rfl, rfl, rfl, rfl, rfl, fun he => ?_⟩
  exact absurd (congrArg Store.driverUpdates he) (by decide +kernel)

end Intake

end SparkLog
