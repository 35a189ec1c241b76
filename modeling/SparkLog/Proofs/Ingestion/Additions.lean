import SparkLog.Proofs.Keyed
import SparkLog.Proofs.Ingestion.Runs

/-!
# What an event adds

What an event adds to a store does not depend on the store, only what becomes of it there does. So
an event is told by the store that it makes of the empty one (`Store.alone`), which is what its
content adds (`alone_adds`). Taking it in merges that store into the one at hand
(`apply_eq_absorb`), family by family: the first record of an identifier stays, or the last one
does, or records are put behind those before.
-/

namespace SparkLog

/-- The version that an event names. -/
@[simp]
def EventContent.version? : EventContent → Option String
  | .logStart version => some version
  | _ => none

/-- Whether the run is accelerated, as an event tells it. -/
@[simp]
def EventContent.accelerated? (settings : Settings) : EventContent → Option Bool
  | .environmentUpdate _ spark _ _ _ => some (Store.isAccelerated settings spark)
  | _ => none

/-- The properties of an environment, source by source. -/
@[simp]
def EventContent.properties : EventContent → List ((PropertySource × String) × Property)
  | .environmentUpdate jvm spark hadoop system classpath =>
    entries .spark spark ++ entries .hadoop hadoop ++ entries .system system ++ entries .jvm jvm ++
      entries .classpath classpath
  | _ => []
where
  /-- The properties of one source. -/
  entries (source : PropertySource) (values : Fields) :
      List ((PropertySource × String) × Property) :=
    values.map fun (key, value) =>
      ((source, key), { source := source.name, key, value := value.render })

namespace Store

/-- What an event adds: the store that it makes of the empty one. -/
def alone (settings : Settings) (event : Event) : Store :=
  (({} : Store).apply settings event).1

/-- Some task key of `added` is known. -/
def knowsTask (store added : Store) : Bool :=
  added.taskKeys.any fun key => store.taskKeys.any (TaskKey.agrees key)

/-- Some query of `added` is known. -/
def knowsQuery (store added : Store) : Bool :=
  added.queries.keys.any store.queries.has

/-- Merge what an event adds into a store. -/
def absorb (settings : Settings) (store : Store) (event : Event) : Store :=
  let added := alone settings event
  { store with
    application := store.application.or added.application
    finish := store.finish.or added.finish
    version := event.content.version?.getD store.version
    accelerated := (event.content.accelerated? settings).getD store.accelerated
    executors := store.executors.fillBy (· == ·) added.executors.entries
    executorRemovals := store.executorRemovals ++ added.executorRemovals
    blockManagers := store.blockManagers.fillBy (· == ·) added.blockManagers.entries
    blockManagerRemovals := store.blockManagerRemovals ++ added.blockManagerRemovals
    profiles := store.profiles.overrideBy (· == ·) added.profiles.entries
    properties := store.properties.overrideBy (· == ·) event.content.properties
    jobs := store.jobs.fillBy (· == ·) added.jobs.entries
    jobEnds := store.jobEnds.fillBy (· == ·) added.jobEnds.entries
    stages := store.stages.fillBy StageKey.agrees added.stages.entries
    completions := store.completions.overrideBy StageKey.agrees added.completions.entries
    tasks := if store.knowsTask added then store.tasks else store.tasks ++ added.tasks
    taskKeys := if store.knowsTask added then store.taskKeys else store.taskKeys ++ added.taskKeys
    queries := store.queries.fillBy (· == ·) added.queries.entries
    queryEnds := store.queryEnds.fillBy (· == ·) added.queryEnds.entries
    plans :=
      if store.knowsQuery added then store.plans
      else store.plans.overrideBy (· == ·) added.plans.entries
    planTexts :=
      if store.knowsQuery added then store.planTexts
      else store.planTexts.overrideBy (· == ·) added.planTexts.entries
    adaptiveMetrics := store.adaptiveMetrics ++ added.adaptiveMetrics
    driverUpdates := store.driverUpdates ++ added.driverUpdates
    accumulables :=
      if store.knowsTask added then store.accumulables
      else store.accumulables ++ added.accumulables
    others := store.others ++ added.others }

/-! ## Handlers -/

/-- The identifier of a task is the field that is named for it. -/
theorem find_of_task_identifier {info : Fields} {id : Payload} (h : taskIdentifier info = .ok id) :
    info.find "Task ID" = id := by
  unfold taskIdentifier at h
  split at h
  · rename_i hget
    simpa [Fields.find, Fields.getD, hget] using h
  · cases h

/-- A handler that puts a record in unless its key is known adds the record, if there is one. -/
theorem of_result_fill {κ α β : Type} {same : κ → κ → Bool} {store : Store}
    (put : Keyed κ α → Store) {table : Keyed κ α} (hput : put table = store) (key : κ)
    (make : β → α) (record : Except Failure β) :
    (Changed.ofResult store
        (if (table.findBy? same key).isSome then pure store
          else record >>= fun value => pure (put (table.insertBy same key (make value))))).1 =
      put (table.fillBy same (record.toOption.map fun value => (key, make value)).toList) := by
  cases record with
  | error failure => cases (table.findBy? same key).isSome <;> exact hput.symm
  | ok value =>
      cases hknown : (table.findBy? same key).isSome with
      | true =>
          simp [pure, Except.pure, Changed.ofResult, Except.toOption, Keyed.fillBy, hknown, hput]
      | false =>
          simp [bind, Except.bind, pure, Except.pure, Changed.ofResult, Except.toOption,
            Keyed.fillBy, hknown]

/-- A handler that puts a record in the place of an earlier one adds the record, if there is one. -/
theorem of_result_override {κ α : Type} {same : κ → κ → Bool} {store : Store}
    (put : Keyed κ α → Store) {table : Keyed κ α} (hput : put table = store) (key : κ)
    (record : Except Failure α) :
    (Changed.ofResult store
        (record >>= fun value => pure (put (table.insertBy same key value)))).1 =
      put (table.overrideBy same (record.toOption.map fun value => (key, value)).toList) := by
  cases record with
  | error failure => exact hput.symm
  | ok value => rfl

/-- What a resource profile adds. -/
theorem add_profile_adds (id : Int) (executor task : List (String × Fields)) :
    ∃ found : Option (Int × ResourceProfile), (∀ entry ∈ found, entry.1 = id) ∧
      ∀ store : Store, (Changed.ofResult store (store.addProfile id executor task)).1 =
        { store with profiles := store.profiles.overrideBy (· == ·) found.toList } := by
  refine ⟨_, ?_, fun store =>
    of_result_override (fun profiles => { store with profiles }) rfl id _⟩
  simp

/-- What an executor adds. -/
theorem add_executor_adds (time : Int) (id : String) (info : Fields) :
    ∃ found : Option (String × Executor), (∀ entry ∈ found, entry.1 = id) ∧
      ∀ store : Store, (Changed.ofResult store (store.addExecutor time id info)).1 =
        { store with executors := store.executors.fillBy (· == ·) found.toList } := by
  refine ⟨_, ?_, fun store =>
    of_result_fill (fun executors => { store with executors }) rfl id (fun executor => executor) _⟩
  simp

/-- What a block manager adds. -/
theorem add_block_manager_adds (time : Int) (manager : Fields) (memory : Int)
    (onHeap offHeap : Option Int) :
    ∃ found : Option (String × BlockManager),
      (∀ entry ∈ found, managedExecutor manager = .ok entry.1) ∧
      ∀ store : Store,
        (Changed.ofResult store (store.addBlockManager time manager memory onHeap offHeap)).1 =
          { store with blockManagers := store.blockManagers.fillBy (· == ·) found.toList } := by
  unfold addBlockManager
  cases managedExecutor manager with
  | error failure => exact ⟨none, by simp, fun store => rfl⟩
  | ok executor =>
      refine ⟨_, ?_, fun store => of_result_fill (fun blockManagers => { store with blockManagers })
        rfl executor (fun blockManager => blockManager) _⟩
      simp

/-- What the removal of a block manager adds. -/
theorem add_block_manager_removal_adds (time : Int) (manager : Fields) :
    ∃ found : Option BlockManagerRemoval,
      ∀ store : Store, (Changed.ofResult store (store.addBlockManagerRemoval time manager)).1 =
        { store with
          blockManagerRemovals := store.blockManagerRemovals ++ found.toList } := by
  unfold addBlockManagerRemoval
  cases managedExecutor manager with
  | error failure => exact ⟨none, fun store => by simp [bind, Except.bind, Changed.ofResult]⟩
  | ok executor => exact ⟨some { executor, time }, fun store => rfl⟩

/-- What the start of a job adds. -/
theorem add_job_adds (id : Int) (start : Option Int) (stages : List Int) (properties : Fields) :
    ∃ found : Option (Int × Job), (∀ entry ∈ found, entry.1 = id ∧ entry.2.id = id) ∧
      ∀ store : Store, (Changed.ofResult store (store.addJob id start stages properties)).1 =
        { store with jobs := store.jobs.fillBy (· == ·) found.toList } := by
  refine ⟨_, ?_, fun store => of_result_fill (fun jobs => { store with jobs }) rfl id
    (fun query => { id, start, stages := distinct stages, query }) _⟩
  simp

/-- What the end of a job adds. -/
theorem add_job_end_adds (id time : Int) (result : Fields) :
    ∃ found : Option (Int × JobEnd), (∀ entry ∈ found, entry.1 = id) ∧
      ∀ store : Store, (Changed.ofResult store (store.addJobEnd id time result)).1 =
        { store with jobEnds := store.jobEnds.fillBy (· == ·) found.toList } := by
  refine ⟨_, ?_, fun store =>
    of_result_fill (fun jobEnds => { store with jobEnds }) rfl id (fun jobEnd => jobEnd) _⟩
  simp

/-- The identifiers of a stage attempt, read as integers. -/
def Identifies (info : Fields) (key : StageKey) (id attempt : Int) : Prop :=
  stageIdentifiers info = .ok (key.stage.toPayload, key.attempt.toPayload) ∧
    Schema.int key.stage.toPayload = .ok id ∧ Schema.int key.attempt.toPayload = .ok attempt

/-- What a submitted stage attempt adds. -/
theorem add_stage_adds (info : Fields) :
    ∃ found : Option (StageKey × Stage),
      (∀ entry ∈ found, Identifies info entry.1 entry.2.id entry.2.attempt) ∧
      ∀ store : Store, (Changed.ofResult store (store.addStage info)).1 =
        { store with stages := store.stages.fillBy StageKey.agrees found.toList } := by
  unfold addStage
  cases hids : stageIdentifiers info with
  | error failure => exact ⟨none, by simp, fun store => rfl⟩
  | ok ids =>
      obtain ⟨stage, attempt⟩ := ids
      simp only [bind, Except.bind]
      cases hkey : stageKey stage attempt with
      | error failure => exact ⟨none, by simp, fun store => rfl⟩
      | ok key =>
          obtain ⟨rfl, rfl⟩ := stage_key_eq_ok_iff.mp hkey
          refine ⟨_, ?_, fun store => of_result_fill (fun stages => { store with stages }) rfl key
            (fun stage => stage) _⟩
          intro entry hentry
          obtain ⟨record, hrecord, rfl⟩ := Option.map_eq_some_iff.mp hentry
          simp only [to_option_eq_some_iff, Schema.accept_eq_ok_iff, Checked.seq_eq_ok_iff,
            Checked.map_eq_ok_iff] at hrecord
          obtain ⟨_, ⟨_, ⟨_, ⟨_, ⟨id, hid, rfl⟩, attempt, hattempt, rfl⟩, _, -, rfl⟩, _, -, rfl⟩,
            _, -, rfl⟩ := hrecord
          exact ⟨hids, hid, hattempt⟩

/-- What a completed stage attempt adds. -/
theorem add_completion_adds (info : Fields) :
    ∃ (found : Option (StageKey × StageCompletion)) (reported : List Accumulable),
      (∀ entry ∈ found, Identifies info entry.1 entry.2.id entry.2.attempt) ∧
      ∀ store : Store, (Changed.ofResult store (store.addCompletion info)).1 =
        { store with
          completions := store.completions.overrideBy StageKey.agrees found.toList
          accumulables := store.accumulables ++ reported } := by
  have hnone : ∀ failure : Failure, ∀ store : Store,
      (Changed.ofResult store (.error failure)).1 =
        { store with
          completions := store.completions.overrideBy StageKey.agrees []
          accumulables := store.accumulables ++ [] } := by
    intro failure store
    simp [Changed.ofResult]
  unfold addCompletion
  cases hids : stageIdentifiers info with
  | error failure => exact ⟨none, [], by simp, hnone failure⟩
  | ok ids =>
      obtain ⟨stage, attempt⟩ := ids
      simp only [bind, Except.bind]
      cases hkey : stageKey stage attempt with
      | error failure => exact ⟨none, [], by simp, hnone failure⟩
      | ok key =>
          obtain ⟨rfl, rfl⟩ := stage_key_eq_ok_iff.mp hkey
          cases SparkLog.accumulables key.stage.toPayload key.attempt.toPayload .null
              (info.find "Accumulables") with
          | error failure => exact ⟨none, [], by simp, hnone failure⟩
          | ok reported =>
              generalize hrecord : Schema.accept "StageCompletedRecord" _ = record
              cases record with
              | error failure => exact ⟨none, [], by simp, hnone failure⟩
              | ok completion =>
                  refine ⟨some (key, completion), reported, ?_, fun store => rfl⟩
                  rintro entry ⟨⟩
                  simp only [Schema.accept_eq_ok_iff, Checked.seq_eq_ok_iff,
                    Checked.map_eq_ok_iff] at hrecord
                  obtain ⟨_, ⟨_, ⟨_, ⟨_, ⟨id, hid, rfl⟩, attempt, hattempt, rfl⟩, _, -, rfl⟩,
                    _, -, rfl⟩, _, -, rfl⟩ := hrecord
                  exact ⟨hids, hid, hattempt⟩

/-- Put a task attempt in with what it reported, unless its key is known. -/
def withTask (store : Store) : Option (TaskKey × Task × List Accumulable) → Store
  | none => store
  | some (key, task, reported) =>
    if store.taskKeys.any (TaskKey.agrees key) then store
    else
      { store with
        taskKeys := store.taskKeys ++ [key]
        tasks := store.tasks ++ [task]
        accumulables := store.accumulables ++ reported }

/-- A finished task attempt is told by its key and the integers that this is read as. -/
def IdentifiesTask (stage stageAttempt : Int) (info : Fields) (key : TaskKey) (task : Task) :
    Prop :=
  taskIdentifier info = .ok key.task.toPayload ∧
    info.getD "Attempt" (.int 0) = key.attempt.toPayload ∧
    key.stage = stage ∧ key.stageAttempt = stageAttempt ∧
    task.stage = stage ∧ task.stageAttempt = stageAttempt ∧
    Schema.int key.task.toPayload = .ok task.id ∧
    Schema.int key.attempt.toPayload = .ok task.attempt

/-- What a finished task attempt adds. -/
theorem add_task_adds (stage stageAttempt : Int) (type : String) (reason info : Fields)
    (metrics : Option Fields) :
    ∃ found : Option (TaskKey × Task × List Accumulable),
      (∀ entry ∈ found, IdentifiesTask stage stageAttempt info entry.1 entry.2.1) ∧
      ∀ store : Store, (Changed.ofResult store
        (store.addTask stage stageAttempt type reason info metrics)).1 = store.withTask found := by
  have hnone : ∀ failure : Failure, ∀ key : TaskKey, ∀ store : Store,
      (Changed.ofResult store (if store.taskKeys.any (TaskKey.agrees key) then .ok store
        else .error failure)).1 = store.withTask none := by
    intro failure key store
    cases store.taskKeys.any (TaskKey.agrees key) <;> rfl
  unfold addTask
  cases hid : taskIdentifier info with
  | error failure => exact ⟨none, by simp, fun store => rfl⟩
  | ok id =>
      simp only [bind, Except.bind]
      cases hkey : taskKey stage stageAttempt id (info.getD "Attempt" (.int 0)) with
      | error failure => exact ⟨none, by simp, fun store => rfl⟩
      | ok key =>
          obtain ⟨hstage, hstageAttempt, rfl, hattempt⟩ := task_key_eq_ok_iff.mp hkey
          simp only
          cases htask : taskOfEnd stage stageAttempt type reason info metrics with
          | error failure => exact ⟨none, by simp, hnone failure key⟩
          | ok task =>
              simp only
              cases SparkLog.accumulables (.int stage) (.int stageAttempt) key.task.toPayload
                  (info.find "Accumulables") with
              | error failure => exact ⟨none, by simp, hnone failure key⟩
              | ok reported =>
                  refine ⟨some (key, task, reported), ?_, fun store => ?_⟩
                  · rintro entry ⟨⟩
                    obtain ⟨htaskStage, htaskAttempt, htaskId, htaskNumber⟩ :=
                      task_of_end_identifiers htask
                    rw [find_of_task_identifier hid] at htaskId
                    rw [hattempt] at htaskNumber
                    exact ⟨hid, hattempt, hstage, hstageAttempt, htaskStage, htaskAttempt, htaskId,
                      htaskNumber⟩
                  · simp only [withTask]
                    cases store.taskKeys.any (TaskKey.agrees key) <;> rfl

/-- One source of properties after the other is put in. -/
theorem add_environment_properties (settings : Settings) (store : Store)
    (jvm spark hadoop system classpath : Fields) :
    store.addEnvironment settings jvm spark hadoop system classpath =
      { store with
        properties := store.properties.overrideBy (· == ·)
          (EventContent.environmentUpdate jvm spark hadoop system classpath).properties
        accelerated := isAccelerated settings spark } := by
  simp only [addEnvironment, addProperties, EventContent.properties,
    EventContent.properties.entries, Keyed.overrideBy, List.foldl_append, List.foldl_map,
    Keyed.insert]

/-- What driver updates add. -/
theorem add_driver_updates_adds (query : Int) (updates : List (List Int)) (store : Store) :
    (addDriverUpdates query updates store).1 =
      { store with driverUpdates := store.driverUpdates ++ leadingPairs query updates } :=
  add_driver_updates_store query updates store

/-! ## Events -/

/-- What an event of some content adds: what the content tells outright, or the one record at most
that a handler makes of it, with the identifier of the event. -/
inductive Adds (settings : Settings) (event : Event) : EventContent → Store → Prop where
  | logStart {version} : Adds settings event (.logStart version) { version }
  | applicationStart {name id time user attempt} :
      Adds settings event (.applicationStart name id time user attempt)
        { application := some { name, id := id.getD "", user, start := time } }
  | applicationEnd {time} : Adds settings event (.applicationEnd time) { finish := some time }
  | environmentUpdate {jvm spark hadoop system classpath} :
      Adds settings event (.environmentUpdate jvm spark hadoop system classpath)
        { properties := Keyed.empty.overrideBy (· == ·)
            (EventContent.environmentUpdate jvm spark hadoop system classpath).properties
          accelerated := isAccelerated settings spark }
  | profile {id executor task} {found : Option (Int × ResourceProfile)}
      (hfound : ∀ entry ∈ found, entry.1 = id) :
      Adds settings event (.resourceProfileAdded id executor task)
        { profiles := Keyed.empty.overrideBy (· == ·) found.toList }
  | executor {time id info} {found : Option (String × Executor)}
      (hfound : ∀ entry ∈ found, entry.1 = id) :
      Adds settings event (.executorAdded time id info)
        { executors := Keyed.empty.fillBy (· == ·) found.toList }
  | executorRemoval {time executor reason} :
      Adds settings event (.executorRemoved time executor reason)
        { executorRemovals := [{ executor, time, reason }] }
  | blockManager {time manager memory onHeap offHeap} {found : Option (String × BlockManager)}
      (hfound : ∀ entry ∈ found, managedExecutor manager = .ok entry.1) :
      Adds settings event (.blockManagerAdded time manager memory onHeap offHeap)
        { blockManagers := Keyed.empty.fillBy (· == ·) found.toList }
  | blockManagerRemoval {time manager} {found : Option BlockManagerRemoval} :
      Adds settings event (.blockManagerRemoved time manager)
        { blockManagerRemovals := found.toList }
  | job {id time stages infos properties} {found : Option (Int × Job)}
      (hfound : ∀ entry ∈ found, entry.1 = id ∧ entry.2.id = id) :
      Adds settings event (.jobStart id time stages infos properties)
        { jobs := Keyed.empty.fillBy (· == ·) found.toList }
  | jobEnd {id time result} {found : Option (Int × JobEnd)}
      (hfound : ∀ entry ∈ found, entry.1 = id) :
      Adds settings event (.jobEnd id time result)
        { jobEnds := Keyed.empty.fillBy (· == ·) found.toList }
  | stage {info properties} {found : Option (StageKey × Stage)}
      (hfound : ∀ entry ∈ found, Identifies info entry.1 entry.2.id entry.2.attempt) :
      Adds settings event (.stageSubmitted info properties)
        { stages := Keyed.empty.fillBy StageKey.agrees found.toList }
  | completion {info} {found : Option (StageKey × StageCompletion)} {reported : List Accumulable}
      (hfound : ∀ entry ∈ found, Identifies info entry.1 entry.2.id entry.2.attempt) :
      Adds settings event (.stageCompleted info)
        { completions := Keyed.empty.overrideBy StageKey.agrees found.toList
          accumulables := reported }
  | taskStart {stage attempt info} : Adds settings event (.taskStart stage attempt info) {}
  | taskGettingResult {info} : Adds settings event (.taskGettingResult info) {}
  | task {stage stageAttempt type reason info metrics executorMetrics}
      {found : Option (TaskKey × Task × List Accumulable)}
      (hfound : ∀ entry ∈ found, IdentifiesTask stage stageAttempt info entry.1 entry.2.1) :
      Adds settings event
        (.taskEnd stage stageAttempt type reason info metrics executorMetrics)
        (withTask {} found)
  | queryStart {id description details planText plan time} :
      Adds settings event (.queryStart id description details planText plan time)
        { queries := ⟨[(id, { id, description, details, start := time })]⟩
          plans := ⟨[(id, plan)]⟩
          planTexts := ⟨[(id, planText)]⟩ }
  | queryEnd {id time} : Adds settings event (.queryEnd id time) { queryEnds := ⟨[(id, time)]⟩ }
  | planUpdate {id planText plan} : Adds settings event (.planUpdate id planText plan)
      { plans := ⟨[(id, plan)]⟩, planTexts := ⟨[(id, planText)]⟩ }
  | metricUpdates {id metrics} : Adds settings event (.metricUpdates id metrics)
      { adaptiveMetrics := metrics.map (queryMetric id) }
  | driverUpdates {id updates} : Adds settings event (.driverUpdates id updates)
      { driverUpdates := leadingPairs id updates }
  | other : Adds settings event .other { others := [event] }

/-- What stands alone of an event is what its content adds. -/
theorem alone_adds (settings : Settings) (event : Event) :
    Adds settings event event.content (alone settings event) := by
  obtain ⟨name, content, extras⟩ := event
  simp only [alone]
  cases content with
  | environmentUpdate jvm spark hadoop system classpath =>
      simp only [apply, add_environment_properties]
      exact .environmentUpdate
  | resourceProfileAdded id executor task =>
      obtain ⟨found, hfound, hadds⟩ := add_profile_adds id executor task
      rw [apply, hadds]
      exact .profile hfound
  | executorAdded time id info =>
      obtain ⟨found, hfound, hadds⟩ := add_executor_adds time id info
      rw [apply, hadds]
      exact .executor hfound
  | blockManagerAdded time manager memory onHeap offHeap =>
      obtain ⟨found, hfound, hadds⟩ := add_block_manager_adds time manager memory onHeap offHeap
      rw [apply, hadds]
      exact .blockManager hfound
  | blockManagerRemoved time manager =>
      obtain ⟨found, hadds⟩ := add_block_manager_removal_adds time manager
      rw [apply, hadds]
      exact .blockManagerRemoval
  | jobStart id time stages infos properties =>
      obtain ⟨found, hfound, hadds⟩ := add_job_adds id time stages (properties.getD [])
      rw [apply, hadds]
      exact .job hfound
  | jobEnd id time result =>
      obtain ⟨found, hfound, hadds⟩ := add_job_end_adds id time (result.getD [])
      rw [apply, hadds]
      exact .jobEnd hfound
  | stageSubmitted info properties =>
      obtain ⟨found, hfound, hadds⟩ := add_stage_adds info
      rw [apply, hadds]
      exact .stage hfound
  | stageCompleted info =>
      obtain ⟨found, reported, hfound, hadds⟩ := add_completion_adds info
      rw [apply, hadds]
      exact .completion hfound
  | taskEnd stage stageAttempt type reason info metrics executorMetrics =>
      obtain ⟨found, hfound, hadds⟩ := add_task_adds stage stageAttempt type reason info metrics
      rw [apply, hadds]
      exact .task hfound
  | driverUpdates id updates =>
      rw [apply, add_driver_updates_adds]
      exact .driverUpdates
  | _ => constructor

/-- Taking an event in merges what it adds into the store. -/
theorem apply_eq_absorb (settings : Settings) (store : Store) (event : Event) :
    (store.apply settings event).1 = store.absorb settings event := by
  obtain ⟨name, content, extras⟩ := event
  simp only [absorb, alone, knowsTask, knowsQuery, Keyed.keys]
  -- Each handler says what it adds to every store; at the empty one this is what stands alone.
  cases content with
  | resourceProfileAdded id executor task =>
      obtain ⟨found, -, hadds⟩ := add_profile_adds id executor task
      simp [apply, hadds]
  | executorAdded time id info =>
      obtain ⟨found, -, hadds⟩ := add_executor_adds time id info
      simp [apply, hadds]
  | blockManagerAdded time manager memory onHeap offHeap =>
      obtain ⟨found, -, hadds⟩ := add_block_manager_adds time manager memory onHeap offHeap
      simp [apply, hadds]
  | blockManagerRemoved time manager =>
      obtain ⟨found, hadds⟩ := add_block_manager_removal_adds time manager
      simp [apply, hadds]
  | jobStart id time stages infos properties =>
      obtain ⟨found, -, hadds⟩ := add_job_adds id time stages (properties.getD [])
      simp [apply, hadds]
  | jobEnd id time result =>
      obtain ⟨found, -, hadds⟩ := add_job_end_adds id time (result.getD [])
      simp [apply, hadds]
  | stageSubmitted info properties =>
      obtain ⟨found, -, hadds⟩ := add_stage_adds info
      simp [apply, hadds]
  | stageCompleted info =>
      obtain ⟨found, reported, -, hadds⟩ := add_completion_adds info
      simp [apply, hadds]
  | taskEnd stage stageAttempt type reason info metrics executorMetrics =>
      obtain ⟨found, -, hadds⟩ := add_task_adds stage stageAttempt type reason info metrics
      cases found with
      | none => simp [apply, hadds, withTask]
      | some found =>
          obtain ⟨key, task, reported⟩ := found
          cases hknown : store.taskKeys.any (TaskKey.agrees key) <;>
            simp [apply, hadds, withTask, hknown]
  | queryStart id description details planText plan time =>
      have halone : ({} : Store).addQuery id description details planText plan time =
          { queries := ⟨[(id, { id, description, details, start := time })]⟩
            plans := ⟨[(id, plan)]⟩, planTexts := ⟨[(id, planText)]⟩ } := rfl
      simp only [apply, halone]
      cases hknown : store.queries.has id with
      | true =>
          have hfound : (store.queries.findBy? (· == ·) id).isSome = true := hknown
          simp [addQuery, hknown, hfound]
      | false =>
          have hfound : (store.queries.findBy? (· == ·) id).isSome = false := hknown
          simp [addQuery, hknown, hfound, Keyed.insert]
  | queryEnd id time =>
      have halone : (Keyed.empty : Keyed Int Int).insertNew id time = ⟨[(id, time)]⟩ := rfl
      have hadds : store.queryEnds.insertNew id time =
          store.queryEnds.fillBy (· == ·) [(id, time)] := rfl
      simp only [apply, halone]
      simp [hadds, -Keyed.fill_by_singleton]
  | planUpdate id planText plan =>
      have halone : ({} : Store).updatePlan id planText plan =
          { plans := ⟨[(id, plan)]⟩, planTexts := ⟨[(id, planText)]⟩ } := rfl
      simp only [apply, halone]
      simp [updatePlan, Keyed.insert]
  | driverUpdates id updates => simp [apply, add_driver_updates_adds]
  | environmentUpdate jvm spark hadoop system classpath =>
      simp [apply, add_environment_properties]
  | _ => simp [apply]

/-- Merge what events add into a store, one after the other. -/
def absorbAll (settings : Settings) (store : Store) (events : List Event) : Store :=
  events.foldl (absorb settings) store

end Store

/-! ## Runs -/

/-- What becomes of a record does not depend on what was counted before. -/
theorem read_record_reading (strict : Bool) (counts : ReadCounts) (record : Payload) :
    (readRecord strict counts record).2 = (readRecord strict {} record).2 := by
  unfold readRecord
  cases namedRecord? record with
  | none => rfl
  | some named =>
      obtain ⟨fields, name⟩ := named
      cases name with
      | text text =>
          cases hevent : Event.ofFields text (normalize fields) <;>
            simp [Scalar.ofPayload, leaveOut, hevent]
      | _ => rfl

/-- The event that a tolerant reader reads a record as. -/
def readEvent? (record : Payload) : Option Event :=
  match (readRecord false {} record).2 with
  | .ok event => event
  | .error _ => none

namespace Intake

variable {settings : Settings}

/-- A record that a tolerant intake gets through changes the store as its event does, if it is read
as one. -/
theorem record_store_eq (hlenient : settings.strict = false) {intake : Intake} {record : Payload}
    (hcomplete : (intake.record settings record).2 = none) :
    (intake.record settings record).1.store =
      intake.store.absorbAll settings (readEvent? record).toList := by
  have hreading := read_record_reading settings.strict intake.reads record
  unfold readEvent?
  rw [← hlenient, ← hreading]
  unfold Intake.record at hcomplete ⊢
  cases hread : readRecord settings.strict intake.reads record with
  | mk reads reading =>
      rw [hread] at hcomplete
      cases reading with
      | error failure => cases hcomplete
      | ok found =>
          cases found with
          | none => rfl
          | some event =>
              exact event_store.trans (Store.apply_eq_absorb settings intake.store event)

/-- A tolerant run that is not interrupted merges what the events of its records add. -/
theorem records_store_eq (hlenient : settings.strict = false) {intake : Intake}
    {items : List Payload} (hcomplete : (Intake.records settings intake items).2 = none) :
    (Intake.records settings intake items).1.store =
      intake.store.absorbAll settings (items.filterMap readEvent?) := by
  induction items generalizing intake with
  | nil => rfl
  | cons record rest ih =>
      have hstore := @record_store_eq settings hlenient intake record
      rw [List.filterMap_cons]
      simp only [Intake.records, Changed.fold] at hcomplete ih ⊢
      cases hrecord : intake.record settings record with
      | mk next failure =>
          rw [hrecord] at hcomplete hstore
          cases failure with
          | some failure => cases hcomplete
          | none =>
              rw [ih hcomplete, hstore rfl]
              cases readEvent? record <;> rfl

end Intake

end SparkLog
