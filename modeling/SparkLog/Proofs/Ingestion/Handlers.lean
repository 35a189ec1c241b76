import SparkLog.Store.Ingest
import SparkLog.Proofs.Changed
import SparkLog.Proofs.Outcome

/-!
# Parts of handlers

What handlers of events are made of: the keys that they form of identifiers (`stage_key_eq_ok_iff`,
`task_key_eq_ok_iff`), the fields from which the record of a task is read
(`task_of_end_identifiers`), and the pairs that driver updates put in before the first update that
is no pair (`add_driver_updates_store`).
-/

namespace SparkLog

/-- A payload is a scalar exactly when it is written from that scalar. -/
theorem Scalar.of_payload_eq_ok_iff {payload : Payload} {scalar : Scalar} :
    Scalar.ofPayload payload = .ok scalar ↔ payload = scalar.toPayload := by
  cases payload <;> cases scalar <;> simp [Scalar.ofPayload, Scalar.toPayload]

/-- The pairs in front of the first update that is no pair, as updates of a query. -/
def leadingPairs (query : Int) : List (List Int) → List DriverUpdate
  | [accumulator, value] :: rest => { query, accumulator, value } :: leadingPairs query rest
  | _ => []

/-- No pair is in front exactly when the first update, if there is one, is no pair. -/
theorem leading_pairs_eq_nil_iff {query : Int} {updates : List (List Int)} :
    leadingPairs query updates = [] ↔
      ∀ accumulator value rest, updates ≠ [accumulator, value] :: rest := by
  unfold leadingPairs
  split
  · simp
  · rename_i hpair
    exact iff_of_true rfl hpair

namespace Store

variable {store : Store}

/-! ## Keys -/

/-- Identifiers of a stage attempt form a key exactly when they are written from its scalars. -/
theorem stage_key_eq_ok_iff {stage attempt : Payload} {key : StageKey} :
    stageKey stage attempt = .ok key ↔
      stage = key.stage.toPayload ∧ attempt = key.attempt.toPayload := by
  simp only [stageKey, bind_eq_ok_iff, pure_eq_ok_iff, Scalar.of_payload_eq_ok_iff]
  constructor
  · rintro ⟨first, hstage, second, hattempt, rfl⟩
    exact ⟨hstage, hattempt⟩
  · rintro ⟨hstage, hattempt⟩
    exact ⟨key.stage, hstage, key.attempt, hattempt, rfl⟩

/-- Identifiers of a task attempt form a key exactly when they are written from its scalars. -/
theorem task_key_eq_ok_iff {stage stageAttempt : Int} {task attempt : Payload} {key : TaskKey} :
    taskKey stage stageAttempt task attempt = .ok key ↔
      key.stage = stage ∧ key.stageAttempt = stageAttempt ∧ task = key.task.toPayload ∧
        attempt = key.attempt.toPayload := by
  simp only [taskKey, bind_eq_ok_iff, pure_eq_ok_iff, Scalar.of_payload_eq_ok_iff]
  constructor
  · rintro ⟨first, htask, second, hattempt, rfl⟩
    exact ⟨rfl, rfl, htask, hattempt⟩
  · rintro ⟨rfl, rfl, htask, hattempt⟩
    exact ⟨key.task, htask, key.attempt, hattempt, rfl⟩

/-! ## Tasks -/

/-- The identifiers of a task are read from the fields that are named for them. -/
theorem task_of_fields_identifiers {fields : Fields} {task : Task}
    (h : Task.ofFields fields = .ok task) :
    Schema.required fields "stage_id" Schema.int = .ok task.stage ∧
      Schema.required fields "stage_attempt_id" Schema.int = .ok task.stageAttempt ∧
      Schema.required fields "task_id" Schema.int = .ok task.id ∧
      Schema.required fields "attempt" Schema.int = .ok task.attempt := by
  revert task
  show (Task.ofFields fields).Ensures _
  unfold Task.ofFields
  -- The fields come off from the last to the first, and are there with what they are read as.
  iterate 13 refine Checked.Ensures.seq ?_
  refine Checked.Ensures.map ?_
  intros
  refine ⟨?_, ?_, ?_, ?_⟩ <;> assumption

/-- The metrics of a task are read from the same fields. -/
theorem task_of_fields_metrics {fields : Fields} {task : Task}
    (h : Task.ofFields fields = .ok task) : TaskMetrics.ofFields fields = .ok task.metrics := by
  revert task
  show (Task.ofFields fields).Ensures _
  unfold Task.ofFields
  iterate 13 refine Checked.Ensures.seq ?_
  refine Checked.Ensures.map ?_
  intros
  assumption

/-- Every metric of a task is read from the field that is named for it. -/
theorem metrics_of_fields {fields : Fields} {metrics : TaskMetrics}
    (h : TaskMetrics.ofFields fields = .ok metrics) (m : TaskMetric) :
    Schema.required fields m.name Schema.int = .ok (metrics.get m) := by
  revert metrics
  show (TaskMetrics.ofFields fields).Ensures _
  unfold TaskMetrics.ofFields
  iterate 25 refine Checked.Ensures.seq ?_
  refine Checked.Ensures.map ?_
  intros
  cases m <;> assumption

/-- The identifiers of a task that ended are those of its event. -/
theorem task_of_end_identifiers {stage stageAttempt : Int} {type : String} {reason info : Fields}
    {metrics : Option Fields} {task : Task}
    (h : taskOfEnd stage stageAttempt type reason info metrics = .ok task) :
    task.stage = stage ∧ task.stageAttempt = stageAttempt ∧
      Schema.int (info.find "Task ID") = .ok task.id ∧
      Schema.int (info.getD "Attempt" (.int 0)) = .ok task.attempt := by
  simp only [taskOfEnd, bind_eq_ok_iff, Schema.accept_eq_ok_iff] at h
  obtain ⟨⟨duration, fetched⟩, -, row, -, htask⟩ := h
  obtain ⟨hstage, hstageAttempt, hid, hattempt⟩ := task_of_fields_identifiers htask
  -- The look-ups meet the keys of `endFields`, in front of all that `row` may hold.
  exact ⟨(Checked.ok.inj hstage).symm, (Checked.ok.inj hstageAttempt).symm, hid, hattempt⟩

/-! ## Driver updates -/

/-- The store with more driver updates. -/
def withUpdates (store : Store) (updates : List DriverUpdate) : Store :=
  { store with driverUpdates := store.driverUpdates ++ updates }

@[simp]
theorem with_updates_nil (store : Store) : store.withUpdates [] = store := by
  simp [withUpdates]

/-- More driver updates leave the store as it was only if there are none. -/
theorem with_updates_eq_self_iff {store : Store} {updates : List DriverUpdate} :
    store.withUpdates updates = store ↔ updates = [] := by
  constructor
  · intro h
    have hupdates := congrArg Store.driverUpdates h
    simpa [withUpdates] using hupdates
  · rintro rfl
    exact with_updates_nil store

/-- Driver updates add the pairs in front of the first update that is no pair. -/
theorem add_driver_updates_store (query : Int) (updates : List (List Int)) (store : Store) :
    (addDriverUpdates query updates store).1 =
      store.withUpdates (leadingPairs query updates) := by
  fun_induction addDriverUpdates query updates store with
  | case1 store => simp [leadingPairs]
  | case2 store accumulator value rest ih => simp [ih, leadingPairs, withUpdates]
  | case3 update rest store hpair =>
      have hnone : leadingPairs query (update :: rest) = [] :=
        leading_pairs_eq_nil_iff.mpr fun accumulator value _ he =>
          hpair accumulator value (List.cons.inj he).1
      simp [hnone]

/-! ## Failures -/

/-- An event that fails has a declared kind. -/
theorem content_ne_other {settings : Settings} {event : Event} {failure : Failure}
    (hfail : (store.apply settings event).2 = some failure) : event.content ≠ .other := by
  intro he
  simp [apply, he] at hfail

end Store

end SparkLog
