import SparkLog.Analysis
import SparkLog.Proofs.Changed
import SparkLog.Proofs.Outcome

/-!
# What correlation fills in

Correlation changes jobs, stage attempts, queries and the application one by one, each by what the
store holds about its end. It gets through exactly if every one of them can be closed
(`correlate_complete_iff`), and then it has closed them all (`correlate_eq`).
-/

namespace SparkLog

variable {κ α : Type} {change : κ → α → Changed α}

/-! ## Entries -/

/-- Changes of entries get through exactly if every one of them does. -/
theorem change_entries_complete_iff {entries : List (κ × α)} :
    (changeEntries change entries).2 = none ↔
      ∀ entry ∈ entries, (change entry.1 entry.2).2 = none := by
  induction entries with
  | nil => simp [changeEntries]
  | cons entry rest ih =>
      obtain ⟨key, value⟩ := entry
      simp only [changeEntries, List.forall_mem_cons]
      cases h : change key value with
      | mk changed failure =>
          cases failure with
          | some failure => simp
          | none => simpa using ih

/-- Changes of entries that get through have changed them all. -/
theorem change_entries_eq {entries : List (κ × α)}
    (h : ∀ entry ∈ entries, (change entry.1 entry.2).2 = none) :
    changeEntries change entries =
      (entries.map fun (key, value) => (key, (change key value).1), none) := by
  induction entries with
  | nil => rfl
  | cons entry rest ih =>
      obtain ⟨key, value⟩ := entry
      obtain ⟨hfirst, hrest⟩ := List.forall_mem_cons.mp h
      simp only [changeEntries, ih hrest, List.map_cons]
      cases hchange : change key value with
      | mk changed failure =>
          rw [hchange] at hfirst
          obtain rfl : failure = none := hfirst
          rfl

/-! ## Durations -/

/-- Writing a duration changes the record by its text, or tells why there is no text. -/
theorem write_duration_cases {α : Type} (value : α) (duration : Option Int)
    (write : α → String → α) :
    (∃ elapsed, Elapsed.optionText duration = .ok elapsed ∧
        writeDuration value duration write = (write value elapsed, none)) ∨
      ∃ failure, writeDuration value duration write = (value, some failure) := by
  unfold writeDuration
  cases Elapsed.optionText duration with
  | ok elapsed => exact .inl ⟨elapsed, rfl, rfl⟩
  | error failure => exact .inr ⟨failure, rfl⟩

/-- A duration that is written changes the record by its text. -/
theorem write_duration_complete {α : Type} {value : α} {duration : Option Int}
    {write : α → String → α} (h : (writeDuration value duration write).2 = none) :
    ∃ elapsed, Elapsed.optionText duration = .ok elapsed ∧
      (writeDuration value duration write).1 = write value elapsed := by
  obtain ⟨elapsed, htext, hwrite⟩ | ⟨failure, hwrite⟩ := write_duration_cases value duration write
  · exact ⟨elapsed, htext, by rw [hwrite]⟩
  · rw [hwrite] at h
    cases h

/-- Writing a duration down changes nothing that the duration is not written to. -/
theorem write_duration_same {α β : Type} {value : α} {duration : Option Int}
    {write : α → String → α} (get : α → β)
    (hsame : ∀ value text, get (write value text) = get value) :
    get (writeDuration value duration write).1 = get value := by
  unfold writeDuration
  split
  · exact hsame value _
  · rfl

/-! ## Records -/

namespace Store

/-- Fill in the end of a job that a store holds. -/
def closeJob (store : Store) (id : Int) (job : Job) : Changed Job :=
  match store.jobEnds.find? id with
  | some jobEnd => job.close jobEnd
  | none => (job, none)

/-- Fill in the times and the completion of a stage attempt that a store holds. -/
def closeStage (store : Store) (key : StageKey) (stage : Stage) : Changed Stage :=
  let stage := stage.withTimes (store.taskSum .runTime key) (store.taskSum .cpuTime key)
  match store.completion? key with
  | some completion => stage.close completion
  | none => (stage, none)

/-- Fill in the end of a query that a store holds. -/
def closeQuery (store : Store) (id : Int) (query : Query) : Changed Query :=
  match store.queryEnds.find? id with
  | some time => query.close time
  | none => (query, none)

/-- Fill in the end of the application that a store holds. -/
def closeApplication (store : Store) (application : Application) : Changed Application :=
  application.close store.version store.accelerated store.finish store.estimatedFinish

/-- All that has an end in a store can be closed. -/
structure Closes (store : Store) : Prop where
  jobs : ∀ entry ∈ store.jobs.entries, (store.closeJob entry.1 entry.2).2 = none
  stages : ∀ entry ∈ store.stages.entries, (store.closeStage entry.1 entry.2).2 = none
  queries : ∀ entry ∈ store.queries.entries, (store.closeQuery entry.1 entry.2).2 = none
  application : ∀ application ∈ store.application, (store.closeApplication application).2 = none

/-- A store with all closed that has an end in it. -/
def closed (store : Store) : Store :=
  { store with
    jobs := store.jobs.mapValues fun id job => (store.closeJob id job).1
    stages := store.stages.mapValues fun key stage => (store.closeStage key stage).1
    queries := store.queries.mapValues fun id query => (store.closeQuery id query).1
    application := store.application.map fun application => (store.closeApplication application).1 }

variable {store : Store}

/-- Correlation of jobs gets through exactly if all can be closed. -/
theorem correlate_jobs_complete_iff : store.correlateJobs.2 = none ↔
    ∀ entry ∈ store.jobs.entries, (store.closeJob entry.1 entry.2).2 = none :=
  change_entries_complete_iff

/-- Correlation of stage attempts gets through exactly if all can be closed. -/
theorem correlate_stages_complete_iff : store.correlateStages.2 = none ↔
    ∀ entry ∈ store.stages.entries, (store.closeStage entry.1 entry.2).2 = none :=
  change_entries_complete_iff

/-- Correlation of queries gets through exactly if all can be closed. -/
theorem correlate_queries_complete_iff : store.correlateQueries.2 = none ↔
    ∀ entry ∈ store.queries.entries, (store.closeQuery entry.1 entry.2).2 = none :=
  change_entries_complete_iff

/-- Correlation of the application gets through exactly if that can be closed. -/
theorem correlate_application_complete_iff : store.correlateApplication.2 = none ↔
    ∀ application ∈ store.application, (store.closeApplication application).2 = none := by
  unfold correlateApplication
  cases store.application with
  | none => simp
  | some application => simp [closeApplication]

/-- Correlation gets through exactly if all that has an end can be closed. -/
theorem correlate_complete_iff : store.correlate.2 = none ↔ store.Closes := by
  -- No step changes what the steps behind it read, so each of them can be told at the first store.
  simp only [correlate, Changed.and_then_complete_iff]
  constructor
  · rintro ⟨⟨⟨hjobs, hstages⟩, hqueries⟩, happlication⟩
    rw [Changed.and_then_eq hjobs] at hqueries happlication
    rw [Changed.and_then_eq hstages] at happlication
    have hclose := correlate_application_complete_iff.mp happlication
    exact
      { jobs := correlate_jobs_complete_iff.mp hjobs
        stages := correlate_stages_complete_iff.mp hstages
        queries := correlate_queries_complete_iff.mp hqueries
        application := hclose }
  · intro h
    have hjobs := correlate_jobs_complete_iff.mpr h.jobs
    have hstages : store.correlateJobs.1.correlateStages.2 = none :=
      correlate_stages_complete_iff.mpr h.stages
    have hqueries : store.correlateJobs.1.correlateStages.1.correlateQueries.2 = none :=
      correlate_queries_complete_iff.mpr h.queries
    rw [Changed.and_then_eq hjobs, Changed.and_then_eq hstages]
    refine ⟨⟨⟨hjobs, hstages⟩, hqueries⟩, ?_⟩
    exact correlate_application_complete_iff.mpr h.application

/-- Correlation of the application fills its end in. -/
theorem correlate_application_eq : store.correlateApplication.1 =
    { store with
      application := store.application.map fun application =>
        (store.closeApplication application).1 } := by
  obtain ⟨_, application⟩ := store
  cases application <;> rfl

/-- Correlation that gets through has closed all that has an end. -/
theorem correlate_eq (h : store.Closes) : store.correlate = (store.closed, none) := by
  have hjobs := correlate_jobs_complete_iff.mpr h.jobs
  have hstages : store.correlateJobs.1.correlateStages.2 = none :=
    correlate_stages_complete_iff.mpr h.stages
  have hqueries : store.correlateJobs.1.correlateStages.1.correlateQueries.2 = none :=
    correlate_queries_complete_iff.mpr h.queries
  refine Prod.ext ?_ (correlate_complete_iff.mpr h)
  rw [correlate, Changed.and_then_eq hjobs, Changed.and_then_eq hstages,
    Changed.and_then_eq hqueries, correlate_application_eq]
  have hjobEntries := congrArg Prod.fst (change_entries_eq h.jobs)
  have hstageEntries := congrArg Prod.fst (change_entries_eq h.stages)
  have hqueryEntries := congrArg Prod.fst (change_entries_eq h.queries)
  show ({ store with
    jobs := ⟨(changeEntries store.closeJob store.jobs.entries).1⟩
    stages := ⟨(changeEntries store.closeStage store.stages.entries).1⟩
    queries := ⟨(changeEntries store.closeQuery store.queries.entries).1⟩
    application := store.application.map fun application =>
      (store.closeApplication application).1 } : Store) = store.closed
  rw [hjobEntries, hstageEntries, hqueryEntries]
  rfl

/-- A store after others were put in the place of its jobs, stage attempts, queries and
application. -/
def FilledIn (store after : Store) : Prop :=
  ∃ jobs stages queries application, after = { store with jobs, stages, queries, application }

/-- Correlation fills in jobs, stage attempts, queries and the application alone, whether it gets
through or not. -/
theorem correlate_form (store : Store) : store.FilledIn store.correlate.1 := by
  have hjobs : store.FilledIn store.correlateJobs.1 := ⟨_, _, _, _, rfl⟩
  have hstages (after : Store) (h : store.FilledIn after) :
      store.FilledIn after.correlateStages.1 := by
    obtain ⟨_, _, _, _, rfl⟩ := h
    exact ⟨_, _, _, _, rfl⟩
  have hqueries (after : Store) (h : store.FilledIn after) :
      store.FilledIn after.correlateQueries.1 := by
    obtain ⟨_, _, _, _, rfl⟩ := h
    exact ⟨_, _, _, _, rfl⟩
  have happlication (after : Store) (h : store.FilledIn after) :
      store.FilledIn after.correlateApplication.1 := by
    obtain ⟨_, _, _, _, rfl⟩ := h
    rw [correlate_application_eq]
    exact ⟨_, _, _, _, rfl⟩
  exact Changed.and_then_invariant
    (Changed.and_then_invariant (Changed.and_then_invariant hjobs hstages) hqueries) happlication

/-- What is so whatever the jobs, stage attempts, queries and application of a store are is so
behind a correlation. -/
theorem correlate_keeps {P : Store → Prop} {store : Store}
    (h : ∀ jobs stages queries application,
      P { store with jobs, stages, queries, application }) : P store.correlate.1 := by
  obtain ⟨jobs, stages, queries, application, hform⟩ := store.correlate_form
  rw [hform]
  exact h jobs stages queries application

/-- A store is derived from exactly if all that has an end can be closed. -/
theorem derive_eq_ok_iff {derived : Store} :
    store.derive = .ok derived ↔ store.Closes ∧ store.closed.analyze.finalize = derived := by
  rw [← correlate_complete_iff]
  unfold derive
  constructor
  · intro h
    split at h
    · rename_i after hcorrelate
      have hcomplete : store.correlate.2 = none := congrArg Prod.snd hcorrelate
      rw [correlate_eq (correlate_complete_iff.mp hcomplete)] at hcorrelate
      obtain rfl := congrArg Prod.fst hcorrelate
      exact ⟨hcomplete, Except.ok.inj h⟩
    · cases h
  · rintro ⟨hcomplete, rfl⟩
    rw [correlate_eq (correlate_complete_iff.mp hcomplete)]

end Store

namespace Analysis

/-- Records are analysed exactly if the intake gets through them and a store is derived from what
was taken in. -/
theorem of_records_eq_ok_iff {settings : Settings} {index : Int} {records : List Payload}
    {analysis : Analysis} : ofRecords settings index records = .ok analysis ↔
      (Intake.records settings {} records).2 = none ∧
        ∃ store, (Intake.records settings {} records).1.store.derive = .ok store ∧
          { index, settings, store, reads := (Intake.records settings {} records).1.reads
            counts := (Intake.records settings {} records).1.counts } = analysis := by
  unfold ofRecords ofIntake
  cases Intake.records settings {} records with
  | mk intake failure =>
      cases failure with
      | some failure => simp
      | none => simp [map_eq_ok_iff]

end Analysis

end SparkLog
