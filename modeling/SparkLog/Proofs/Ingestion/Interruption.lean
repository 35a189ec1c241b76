import SparkLog.Proofs.Ingestion.Additions
import SparkLog.Proofs.Ingestion.Overflow

/-!
# What interrupts a tolerant intake

A tolerant intake leaves bad records out, but not all of them: a record whose name is no text, and
a number past the range of its conversion, interrupt it. `Store.Overflows` says which events meet
such a number in a store, `Store.Halts` which raw records interrupt, and `records_complete_iff` that
an intake gets through its records exactly when none of them does so where the records before it
lead to.
-/

namespace SparkLog

namespace Store

variable {store : Store}

/-! ## Handlers -/

/-- An infinity is named as the query of a job that is not known. -/
def JobOverflows (store : Store) (id : Int) (properties : Fields) : Prop :=
  store.jobs.has id = false ∧ (properties.find "spark.sql.execution.id").IsInfinite

/-- A completed stage attempt has a key, and its accumulables meet an infinity. -/
def CompletionOverflows (info : Fields) : Prop :=
  ∃ key : StageKey,
    stageIdentifiers info = .ok (key.stage.toPayload, key.attempt.toPayload) ∧
    AccumulablesOverflow key.stage.toPayload key.attempt.toPayload .null
      (info.find "Accumulables")

/-- A finished task attempt has a key that is not known, and a number past its range is met in its
times, in its metrics or in its accumulables. -/
def TaskOverflows (store : Store) (stage stageAttempt : Int) (type : String)
    (reason info : Fields) (metrics : Option Fields) : Prop :=
  ∃ id key, taskIdentifier info = .ok id ∧
    taskKey stage stageAttempt id (info.getD "Attempt" (.int 0)) = .ok key ∧
    store.taskKeys.any (TaskKey.agrees key) = false ∧
    (TimesOverflow info ∨
      TimesFit info ∧ BytesOverflow (metrics.getD []) ∨
      (∃ task, taskOfEnd stage stageAttempt type reason info metrics = .ok task) ∧
        AccumulablesOverflow (.int stage) (.int stageAttempt) id (info.find "Accumulables"))

/-- A number past its range is met when the event is taken in. -/
def Overflows (store : Store) : EventContent → Prop
  | .jobStart id _ _ _ properties => store.JobOverflows id (properties.getD [])
  | .stageCompleted info => CompletionOverflows info
  | .taskEnd stage stageAttempt type reason info metrics _ =>
    store.TaskOverflows stage stageAttempt type reason info metrics
  | _ => False

/-- Naming the query of a job interrupts exactly at an infinity. -/
theorem interrupts_query_of_properties_iff {properties : Fields} :
    Interrupts (queryOfProperties properties) ↔
      (properties.find "spark.sql.execution.id").IsInfinite := by
  unfold queryOfProperties
  split
  · rename_i h
    simp [h, Payload.IsInfinite]
  · rename_i h
    simp [h, Payload.IsInfinite]
  · simp only [interrupts_map_iff, Payload.interrupts_to_integer_iff]

/-- The start of a job interrupts exactly if it overflows. -/
theorem interrupts_add_job_iff {id : Int} {start : Option Int} {stages : List Int}
    {properties : Fields} :
    Interrupts (store.addJob id start stages properties) ↔ store.JobOverflows id properties := by
  unfold addJob JobOverflows
  cases store.jobs.has id <;> simp [interrupts_query_of_properties_iff]

/-- The identifiers of a stage attempt do not interrupt. -/
theorem not_interrupts_stage_identifiers {info : Fields} :
    ¬ Interrupts (stageIdentifiers info) := by
  unfold stageIdentifiers
  split <;> simp [Failure.isSkippable]

/-- The identifier of a task does not interrupt. -/
theorem not_interrupts_task_identifier {info : Fields} :
    ¬ Interrupts (taskIdentifier info) := by
  unfold taskIdentifier
  split <;> simp [Failure.isSkippable]

/-- The executor of a block manager does not interrupt. -/
theorem not_interrupts_managed_executor {manager : Fields} :
    ¬ Interrupts (managedExecutor manager) := by
  unfold managedExecutor
  split <;> simp [Failure.isSkippable]

/-- A part of a key does not interrupt. -/
theorem not_interrupts_of_payload {payload : Payload} :
    ¬ Interrupts (Scalar.ofPayload payload) := by
  cases payload <;> simp [Scalar.ofPayload, Failure.isSkippable]

/-- The key of a stage attempt does not interrupt. -/
theorem not_interrupts_stage_key {stage attempt : Payload} :
    ¬ Interrupts (stageKey stage attempt) := by
  simp [stageKey, interrupts_bind_iff, not_interrupts_of_payload]

/-- The key of a task attempt does not interrupt. -/
theorem not_interrupts_task_key {stage stageAttempt : Int} {task attempt : Payload} :
    ¬ Interrupts (taskKey stage stageAttempt task attempt) := by
  simp [taskKey, interrupts_bind_iff, not_interrupts_of_payload]

/-- The completion of a stage attempt interrupts exactly if it overflows. -/
theorem interrupts_add_completion_iff {info : Fields} :
    Interrupts (store.addCompletion info) ↔ CompletionOverflows info := by
  simp only [addCompletion, interrupts_bind_iff, not_interrupts_stage_identifiers,
    not_interrupts_stage_key, interrupts_accumulables_iff, not_interrupts_accept,
    not_interrupts_pure, false_or, and_false, exists_false, or_false, stage_key_eq_ok_iff]
  constructor
  · rintro ⟨⟨stage, attempt⟩, hidentifiers, key, ⟨rfl, rfl⟩, hoverflow⟩
    exact ⟨key, hidentifiers, hoverflow⟩
  · rintro ⟨key, hidentifiers, hoverflow⟩
    exact ⟨_, hidentifiers, key, ⟨rfl, rfl⟩, hoverflow⟩

/-- The record of a task that ended interrupts exactly at its times or at its metrics. -/
theorem interrupts_task_of_end_iff {stage stageAttempt : Int} {type : String}
    {reason info : Fields} {metrics : Option Fields} :
    Interrupts (taskOfEnd stage stageAttempt type reason info metrics) ↔
      TimesOverflow info ∨ TimesFit info ∧ BytesOverflow (metrics.getD []) := by
  simp only [taskOfEnd, interrupts_bind_iff, interrupts_end_times_iff,
    interrupts_flatten_metrics_iff, not_interrupts_accept, and_false, exists_false, or_false,
    exists_and_right, end_times_ok_iff]

/-- The end of a task interrupts exactly if it overflows. -/
theorem interrupts_add_task_iff {stage stageAttempt : Int} {type : String}
    {reason info : Fields} {metrics : Option Fields} :
    Interrupts (store.addTask stage stageAttempt type reason info metrics) ↔
      store.TaskOverflows stage stageAttempt type reason info metrics := by
  -- The early return for a known key does not interrupt, so it only adds a condition.
  have hknown : ∀ key : TaskKey, ∀ rest : Except Failure Store,
      Interrupts (if store.taskKeys.any (TaskKey.agrees key) then pure store else rest) ↔
        store.taskKeys.any (TaskKey.agrees key) = false ∧ Interrupts rest := by
    intro key rest
    cases store.taskKeys.any (TaskKey.agrees key) <;> simp
  simp only [addTask, interrupts_bind_iff, not_interrupts_task_identifier,
    not_interrupts_task_key, hknown, interrupts_task_of_end_iff, interrupts_accumulables_iff,
    not_interrupts_pure, false_or, and_false, exists_false, or_false, exists_and_left,
    exists_and_right, or_assoc, TaskOverflows]

/-- Resource profiles do not interrupt. -/
theorem not_interrupts_add_profile {id : Int} {executor task : List (String × Fields)} :
    ¬ Interrupts (store.addProfile id executor task) := by
  simp [addProfile]

/-- Executors do not interrupt. -/
theorem not_interrupts_add_executor {time : Int} {id : String} {info : Fields} :
    ¬ Interrupts (store.addExecutor time id info) := by
  unfold addExecutor
  split <;> simp

/-- Block managers do not interrupt. -/
theorem not_interrupts_add_block_manager {time : Int} {manager : Fields} {memory : Int}
    {onHeap offHeap : Option Int} :
    ¬ Interrupts (store.addBlockManager time manager memory onHeap offHeap) := by
  simp only [addBlockManager, interrupts_bind_iff, not_interrupts_managed_executor, false_or]
  rintro ⟨executor, -, h⟩
  split at h <;> simp at h

/-- Removals of block managers do not interrupt. -/
theorem not_interrupts_add_block_manager_removal {time : Int} {manager : Fields} :
    ¬ Interrupts (store.addBlockManagerRemoval time manager) := by
  simp [addBlockManagerRemoval, not_interrupts_managed_executor]

/-- Ends of jobs do not interrupt. -/
theorem not_interrupts_add_job_end {id time : Int} {result : Fields} :
    ¬ Interrupts (store.addJobEnd id time result) := by
  unfold addJobEnd
  split <;> simp

/-- Submitted stage attempts do not interrupt. -/
theorem not_interrupts_add_stage {info : Fields} : ¬ Interrupts (store.addStage info) := by
  simp only [addStage, interrupts_bind_iff, not_interrupts_stage_identifiers,
    not_interrupts_stage_key, false_or]
  rintro ⟨identifiers, -, key, -, h⟩
  split at h <;> simp at h

/-! ## Events -/

/-- Driver updates fail in skippable ways only. -/
theorem add_driver_updates_skippable {query : Int} {updates : List (List Int)}
    {failure : Failure} (h : (addDriverUpdates query updates store).2 = some failure) :
    failure.isSkippable = true := by
  fun_induction addDriverUpdates query updates store with
  | case1 store => cases h
  | case2 store accumulator value rest ih => exact ih h
  | case3 update rest store hpair =>
      obtain rfl := Option.some.inj h
      split <;> rfl

/-- An event fails in a way that is not skippable exactly if it overflows. -/
theorem apply_interrupts_iff (settings : Settings) {event : Event} :
    (∃ failure, (store.apply settings event).2 = some failure ∧ failure.isSkippable = false) ↔
      store.Overflows event.content := by
  -- All handlers but the one of driver updates give a result that replaces the store.
  have hresult : ∀ result : Except Failure Store,
      (∃ failure, (Changed.ofResult store result).2 = some failure ∧
        failure.isSkippable = false) ↔ Interrupts result := by
    intro result
    cases result <;> simp [Changed.ofResult]
  obtain ⟨name, content, extras⟩ := event
  cases content with
  | jobStart => exact (hresult _).trans interrupts_add_job_iff
  | stageCompleted => exact (hresult _).trans interrupts_add_completion_iff
  | taskEnd => exact (hresult _).trans interrupts_add_task_iff
  | resourceProfileAdded =>
      exact (hresult _).trans (iff_of_false not_interrupts_add_profile id)
  | jobEnd => exact (hresult _).trans (iff_of_false not_interrupts_add_job_end id)
  | stageSubmitted => exact (hresult _).trans (iff_of_false not_interrupts_add_stage id)
  | executorAdded => exact (hresult _).trans (iff_of_false not_interrupts_add_executor id)
  | blockManagerAdded =>
      exact (hresult _).trans (iff_of_false not_interrupts_add_block_manager id)
  | blockManagerRemoved =>
      exact (hresult _).trans (iff_of_false not_interrupts_add_block_manager_removal id)
  | driverUpdates =>
      refine iff_of_false ?_ id
      rintro ⟨failure, hfail, hskip⟩
      rw [add_driver_updates_skippable hfail] at hskip
      cases hskip
  | _ => simp [apply, Overflows]

/-- Only what is of no declared kind is kept aside. -/
theorem Adds.others {settings : Settings} {event : Event} {content : EventContent} {added : Store}
    (h : Adds settings event content added) (hother : content ≠ .other) : added.others = [] := by
  cases h with
  | other => exact absurd rfl hother
  | @task _ _ _ _ _ _ _ found => cases found <;> rfl
  | _ => rfl

/-- Only events of no declared kind are kept aside. -/
theorem apply_others {settings : Settings} {event : Event} (hother : event.content ≠ .other) :
    (store.apply settings event).1.others = store.others := by
  rw [apply_eq_absorb]
  show store.others ++ (alone settings event).others = store.others
  rw [(alone_adds settings event).others hother, List.append_nil]

/-- A raw record interrupts: its name is no text, or it is an event that overflows. -/
def Halts (store : Store) (record : Payload) : Prop :=
  ∃ fields name, namedRecord? record = some (fields, name) ∧
    ((∀ text, name ≠ .text text) ∨
      ∃ text event, name = .text text ∧ Event.ofFields text (normalize fields) = .ok event ∧
        store.Overflows event.content)

end Store

/-! ## Records -/

namespace Intake

variable {settings : Settings}

/-- A tolerant intake gets through an event exactly if that does not overflow. -/
theorem event_complete_iff (hlenient : settings.strict = false) {intake : Intake} {event : Event} :
    (intake.event settings event).2 = none ↔ ¬ intake.store.Overflows event.content := by
  rw [← Store.apply_interrupts_iff settings]
  obtain ⟨store, failure, happly, ⟨-, rfl, he⟩ | ⟨-, rfl, he⟩ |
    ⟨-, cause, rfl, ⟨hskip, he⟩ | ⟨hskip, he⟩⟩⟩ := event_cases settings intake event
  · simp [he, happly]
  · simp [he, happly]
  · simp [he, happly, hskip, hlenient]
  · simp [he, happly, hskip]

/-- A tolerant intake gets through a record exactly if that does not interrupt its store. -/
theorem record_complete_iff (hlenient : settings.strict = false) {intake : Intake}
    {record : Payload} :
    (intake.record settings record).2 = none ↔ ¬ intake.store.Halts record := by
  unfold Intake.record Store.Halts readRecord
  cases namedRecord? record with
  | none => simp [leaveOut, hlenient]
  | some named =>
      obtain ⟨fields, name⟩ := named
      cases name with
      | text text =>
          cases hevent : Event.ofFields text (normalize fields) with
          | error failure => simp [Scalar.ofPayload, leaveOut, hlenient, hevent]
          | ok event =>
              simp [Scalar.ofPayload, hevent, event_complete_iff hlenient]
      -- A list or an object is no key, and any other name that is no text has no short form.
      | _ => simp [Scalar.ofPayload, EventKind.shortNameOf, Except.map]

/-- The number of items that an intake has counted. -/
def counted (intake : Intake) : Nat :=
  intake.counts.handled + intake.counts.other + intake.counts.failed

@[simp]
theorem counted_count_handled (intake : Intake) :
    intake.countHandled.counted = intake.counted + 1 := by
  simp only [countHandled, counted]
  omega

@[simp]
theorem counted_count_other (intake : Intake) :
    intake.countOther.counted = intake.counted + 1 := by
  simp only [countOther, counted]
  omega

@[simp]
theorem counted_count_failed (intake : Intake) :
    intake.countFailed.counted = intake.counted + 1 :=
  rfl

/-- An event that an intake gets through is counted once. -/
theorem event_counted {intake : Intake} {event : Event}
    (h : (intake.event settings event).2 = none) :
    (intake.event settings event).1.counted = intake.counted + 1 := by
  obtain ⟨store, failure, -, ⟨-, -, he⟩ | ⟨-, -, he⟩ | ⟨-, cause, -, ⟨-, he⟩ | ⟨-, he⟩⟩⟩ :=
    event_cases settings intake event
  · rw [he, counted_count_other]
    rfl
  · rw [he, counted_count_handled]
    rfl
  · rw [he, counted_count_failed]
    rfl
  · rw [he] at h
    cases h

/-- A record that an intake gets through is counted once. -/
theorem record_counted {intake : Intake} {record : Payload}
    (h : (intake.record settings record).2 = none) :
    (intake.record settings record).1.counted = intake.counted + 1 := by
  obtain ⟨reads, ⟨failure, -, he⟩ | ⟨-, he⟩ | ⟨event, -, he⟩⟩ := record_cases settings intake record
  · rw [he] at h
    cases h
  · rw [he, counted_count_failed]
    rfl
  · rw [he] at h ⊢
    exact event_counted h

/-- The events kept aside are as many as were counted so. -/
def CountsOthers (intake : Intake) : Prop :=
  intake.counts.other = intake.store.others.length

/-- Taking an event in keeps the count of events kept aside right. -/
theorem event_counts_others {intake : Intake} (h : intake.CountsOthers) (event : Event) :
    (intake.event settings event).1.CountsOthers := by
  obtain ⟨store, failure, happly, ⟨hother, -, he⟩ | ⟨hother, -, he⟩ |
    ⟨hother, cause, -, ⟨-, he⟩ | ⟨-, he⟩⟩⟩ := event_cases settings intake event
  all_goals have hstore : (intake.store.apply settings event).1 = store := congrArg Prod.fst happly
  · have hothers : store.others = intake.store.others ++ [event] := by
      rw [← hstore]
      simp [Store.apply, hother]
    simpa [he, countOther, CountsOthers, hothers] using h
  all_goals
    have hothers : store.others = intake.store.others := by
      rw [← hstore]
      exact Store.apply_others hother
    simpa [he, countHandled, countFailed, CountsOthers, hothers] using h

/-- Taking a record in keeps the count of events kept aside right. -/
theorem record_counts_others {intake : Intake} (h : intake.CountsOthers) (record : Payload) :
    (intake.record settings record).1.CountsOthers := by
  obtain ⟨reads, ⟨failure, -, he⟩ | ⟨-, he⟩ | ⟨event, -, he⟩⟩ := record_cases settings intake record
  · rw [he]
    exact h
  · rw [he]
    exact h
  · have hreads : ({ intake with reads } : Intake).CountsOthers := h
    rw [he]
    exact event_counts_others hreads event

/-- A tolerant intake gets through its records exactly if none of them interrupts it where the
records before lead to. Then every record was handled, kept aside or counted as failed. -/
theorem records_complete_iff (hlenient : settings.strict = false) (items : List Payload) :
    ((Intake.records settings {} items).2 = none ↔
      ∀ before record after, items = before ++ record :: after →
        ¬ (Intake.records settings {} before).1.store.Halts record) ∧
    ((Intake.records settings {} items).2 = none →
      (Intake.records settings {} items).1.counts.handled +
          (Intake.records settings {} items).1.counts.other +
          (Intake.records settings {} items).1.counts.failed = items.length ∧
        (Intake.records settings {} items).1.counts.other =
          (Intake.records settings {} items).1.store.others.length) := by
  constructor
  · refine Changed.fold_complete_iff.trans ?_
    simp only [record_complete_iff hlenient]
    rfl
  · intro hcomplete
    have hcounted := Changed.fold_measure (fun _ _ => record_counted) hcomplete
    refine ⟨hcounted.trans (Nat.zero_add _), ?_⟩
    have hempty : ({} : Intake).CountsOthers := rfl
    have hstep : ∀ (intake : Intake) (record : Payload), intake.CountsOthers →
        (intake.record settings record).1.CountsOthers :=
      fun intake record h => record_counts_others h record
    exact Changed.fold_invariant hstep hempty items

/-- A record of no shape, an event of no declared kind, and the end of a task without its fields. -/
def skippedRecords : List Payload :=
  [ .list [], .object [("Event", .text "SparkListenerUnheardOf")],
    .object [("Event", .text "SparkListenerTaskEnd")] ]

/-- Records that do not fit are counted, and the intake gets through all of them. -/
theorem records_skipped_complete :
    (∀ before record after, skippedRecords = before ++ record :: after →
      ¬ (Intake.records {} {} before).1.store.Halts record) ∧
    (Intake.records {} {} skippedRecords).1.counts.handled +
        (Intake.records {} {} skippedRecords).1.counts.other +
        (Intake.records {} {} skippedRecords).1.counts.failed = 3 := by
  have hcomplete : (Intake.records {} {} skippedRecords).2 = none := rfl
  have hlenient : ({} : Settings).strict = false := rfl
  have h := records_complete_iff hlenient skippedRecords
  exact ⟨h.1.mp hcomplete, (h.2 hcomplete).1⟩

/-- The start of a log. -/
def versionRecord : Payload :=
  .object [("Event", .text "SparkListenerLogStart"), ("Spark Version", .text "3.5.0")]

/-- A record whose name is a number. -/
def numberedRecord : Payload :=
  .object [("Event", .int 5)]

/-- A job that belongs to an infinite query. -/
def endlessQuery : Payload :=
  .object
    [ ("Event", .text "SparkListenerJobStart"), ("Job ID", .int 1),
      ("Properties", .object [("spark.sql.execution.id", .float (.infinite false))]) ]

/-- A name that is a number and an infinite query each interrupt a tolerant intake, and the record
behind is not taken in. -/
theorem records_interrupted :
    (Intake.records {} {} [numberedRecord, versionRecord]).2 =
        some (.noOperation .int "startswith") ∧
      (Intake.records {} {} [numberedRecord, versionRecord]).1.store.version = "" ∧
      (Intake.records {} {} [endlessQuery, versionRecord]).2 = some .infinityToInteger ∧
      (Intake.records {} {} [endlessQuery, versionRecord]).1.store.version = "" ∧
      (Intake.records {} {} [versionRecord]).1.store.version = "3.5.0" := by
  decide +kernel

end Intake

end SparkLog
