import SparkLog.Session
import SparkLog.Proofs.Ingestion.Additions

/-!
# Ingestion only adds

Whatever a session has come to, correlated and analysed or not, an event that is taken in adds
records and leaves those that are there alone, with all that was derived for them: a store grows
into the store behind the event (`Store.GrowsInto`). What one event keeps (`grows_into_apply`),
every further ingestion keeps (`run_grows_into`), whether its records succeed, fail or stop it.
-/

namespace SparkLog

namespace Store

/-- A store grows into a later one: records under identifiers stay as they are, what derivation
filled in included, lists get longer at their end, and what only derivation writes is the same. -/
structure GrowsInto (store later : Store) : Prop where
  application : ∀ application, store.application = some application →
    later.application = some application
  finish : ∀ time, store.finish = some time → later.finish = some time
  executors : store.executors.entries <+: later.executors.entries
  blockManagers : store.blockManagers.entries <+: later.blockManagers.entries
  jobs : store.jobs.entries <+: later.jobs.entries
  jobEnds : store.jobEnds.entries <+: later.jobEnds.entries
  stages : store.stages.entries <+: later.stages.entries
  queries : store.queries.entries <+: later.queries.entries
  queryEnds : store.queryEnds.entries <+: later.queryEnds.entries
  tasks : store.tasks <+: later.tasks
  executorRemovals : store.executorRemovals <+: later.executorRemovals
  blockManagerRemovals : store.blockManagerRemovals <+: later.blockManagerRemovals
  driverUpdates : store.driverUpdates <+: later.driverUpdates
  accumulables : store.accumulables <+: later.accumulables
  adaptiveMetrics : store.adaptiveMetrics <+: later.adaptiveMetrics
  others : store.others <+: later.others
  finalized : later.finalized = store.finalized
  graphs : later.graphs = store.graphs
  metrics : later.metrics = store.metrics
  nodeMetrics : later.nodeMetrics = store.nodeMetrics
  flags : later.flags = store.flags
  unsupported : later.unsupported = store.unsupported

variable {store middle later : Store}

/-- A store that nothing is added to has grown into itself. -/
theorem GrowsInto.refl (store : Store) : store.GrowsInto store := by
  constructor
  all_goals first | exact List.prefix_rfl | exact fun _ h => h | rfl

/-- A store that grows twice grows into the last one. -/
theorem GrowsInto.trans (h : store.GrowsInto middle) (h' : middle.GrowsInto later) :
    store.GrowsInto later where
  application application hsome := h'.application application (h.application application hsome)
  finish time hsome := h'.finish time (h.finish time hsome)
  executors := h.executors.trans h'.executors
  blockManagers := h.blockManagers.trans h'.blockManagers
  jobs := h.jobs.trans h'.jobs
  jobEnds := h.jobEnds.trans h'.jobEnds
  stages := h.stages.trans h'.stages
  queries := h.queries.trans h'.queries
  queryEnds := h.queryEnds.trans h'.queryEnds
  tasks := h.tasks.trans h'.tasks
  executorRemovals := h.executorRemovals.trans h'.executorRemovals
  blockManagerRemovals := h.blockManagerRemovals.trans h'.blockManagerRemovals
  driverUpdates := h.driverUpdates.trans h'.driverUpdates
  accumulables := h.accumulables.trans h'.accumulables
  adaptiveMetrics := h.adaptiveMetrics.trans h'.adaptiveMetrics
  others := h.others.trans h'.others
  finalized := h'.finalized.trans h.finalized
  graphs := h'.graphs.trans h.graphs
  metrics := h'.metrics.trans h.metrics
  nodeMetrics := h'.nodeMetrics.trans h.nodeMetrics
  flags := h'.flags.trans h.flags
  unsupported := h'.unsupported.trans h.unsupported

/-- A list that an event is appended to, or that stays if the event is known, gets longer at its
end. -/
theorem prefix_unless {α : Type} (known : Bool) (items added : List α) :
    items <+: if known then items else items ++ added := by
  cases known with
  | true => exact List.prefix_rfl
  | false => exact List.prefix_append items added

/-- A store grows into the store behind an event, whatever becomes of the event. -/
theorem grows_into_apply (settings : Settings) (store : Store) (event : Event) :
    store.GrowsInto (store.apply settings event).1 := by
  rw [apply_eq_absorb]
  exact
    { application := fun application hsome => by
        show store.application.or _ = _
        rw [hsome, Option.some_or]
      finish := fun time hsome => by
        show store.finish.or _ = _
        rw [hsome, Option.some_or]
      executors := store.executors.prefix_fill_by _
      blockManagers := store.blockManagers.prefix_fill_by _
      jobs := store.jobs.prefix_fill_by _
      jobEnds := store.jobEnds.prefix_fill_by _
      stages := store.stages.prefix_fill_by _
      queries := store.queries.prefix_fill_by _
      queryEnds := store.queryEnds.prefix_fill_by _
      tasks := prefix_unless _ _ _
      executorRemovals := List.prefix_append _ _
      blockManagerRemovals := List.prefix_append _ _
      driverUpdates := List.prefix_append _ _
      accumulables := prefix_unless _ _ _
      adaptiveMetrics := List.prefix_append _ _
      others := List.prefix_append _ _
      finalized := rfl
      graphs := rfl
      metrics := rfl
      nodeMetrics := rfl
      flags := rfl
      unsupported := rfl }

/-- A store that has grown grows over one more event. -/
theorem GrowsInto.apply (h : store.GrowsInto later) (settings : Settings) (event : Event) :
    store.GrowsInto (later.apply settings event).1 :=
  h.trans (grows_into_apply settings later event)

end Store

namespace Session

/-- A step that takes an event in adds to the store of a session, whatever becomes of the event. -/
theorem step_grows_into (session : Session) {step : SessionStep} (h : step.ingests = true) :
    session.store.GrowsInto (session.step step).1.store :=
  step_store_invariant (P := session.store.GrowsInto)
    (fun _ event hgrows => hgrows.apply session.settings event) (.refl session.store) h

/-- Whatever a session has come to, taking events in only adds to its store. -/
theorem run_grows_into (session : Session) {steps : List SessionStep}
    (h : ∀ step ∈ steps, step.ingests = true) :
    session.store.GrowsInto (session.run steps).1.store := by
  induction steps generalizing session with
  | nil => exact .refl session.store
  | cons step rest ih =>
      have hstep : step.ingests = true := h step List.mem_cons_self
      have hrest : ∀ other ∈ rest, other.ingests = true :=
        fun other hmem => h other (List.mem_cons_of_mem step hmem)
      exact (step_grows_into session hstep).trans (ih (session.step step).1 hrest)

/-- A session that was closed behind a job of thirty milliseconds. -/
def closedBehindJob : List SessionStep :=
  [ .record (.object
      [ ("Event", .text "SparkListenerJobStart"), ("Job ID", .int 1),
        ("Submission Time", .int 10) ]),
    .record (.object
      [ ("Event", .text "SparkListenerJobEnd"), ("Job ID", .int 1),
        ("Completion Time", .int 40) ]),
    .correlate, .analyze, .finalize ]

/-- The job starts again, driver updates fail at the second of them, and an event is unheard of. -/
def lateRecords : List SessionStep :=
  [ .record (.object
      [ ("Event", .text "SparkListenerJobStart"), ("Job ID", .int 1),
        ("Submission Time", .int 20) ]),
    .record (.object
      [ ("Event", .text "SparkListenerDriverAccumUpdates"), ("executionId", .int 1),
        ("accumUpdates", .list [.list [.int 1, .int 2], .list [.int 3]]) ]),
    .event (.object [("Event", .text "SparkListenerUnheardOf")]) ]

/-- The closed store grows by the update in front of the broken one and by the event of no declared
kind; the job keeps the duration that was derived for it. -/
theorem closed_behind_job_grows_into :
    let session := (run {} closedBehindJob).1
    let later := (session.run lateRecords).1
    (∀ step ∈ lateRecords, step.ingests = true) ∧ session.store.GrowsInto later.store ∧
      later.store.jobs.values.map (fun job => (job.start, job.duration)) =
        [(some 10, some 30)] ∧
      later.store.finalized = true ∧ later.store.driverUpdates = [⟨1, 1, 2⟩] ∧
      later.store.others.map Event.name = ["SparkListenerUnheardOf"] := by
  intro session later
  have hingests : ∀ step ∈ lateRecords, step.ingests = true := by
    simp [lateRecords, SessionStep.ingests]
  refine ⟨hingests, run_grows_into session hingests, ?_, ?_, ?_, ?_⟩
  all_goals decide +kernel

end Session

end SparkLog
