import SparkLog.Proofs.Derivation.Repetition
import SparkLog.Proofs.Derivation.Sessions
import SparkLog.Proofs.Listing.PlanMetrics
import SparkLog.Proofs.TaskTable

/-!
# Deriving again

Correlation and plan analysis may run again and again with no event between them. Correlation is at
rest after one run, whether that got through or was stopped (`Store.paired_correlate`), and an
analysis does not stir it (`Store.Paired.analyze`). An analysis writes down what it finds about
queries anew, and adds its records again: the store says what it said, some of it more than once
(`Store.Restates.analyze`). So over any number of steps records stay as they are, and every
answer but the list of nodes that cannot run accelerated is the same (`Session.run_derived_again`).
-/

namespace SparkLog

/-! ## Changes at rest -/

section Entries

variable {κ α : Type} {change : κ → α → Changed α} {entries : List (κ × α)}
  {outcome : Option Failure}

/-- Values that come out the same when they are changed twice make a change of entries that comes
out the same, and is stopped by the same, when it is made twice. -/
theorem change_entries_again
    (h : ∀ key value, change key (change key value).1 = change key value) :
    changeEntries change (changeEntries change entries).1 = changeEntries change entries := by
  induction entries with
  | nil => rfl
  | cons entry rest ih =>
      obtain ⟨key, value⟩ := entry
      have hagain := h key value
      cases hchange : change key value with
      | mk changed failure =>
          rw [hchange] at hagain
          cases failure <;> simp [changeEntries, hchange, hagain, ih]

/-- Entries at rest stay so when their values are changed in another way that the change takes no
notice of. -/
theorem change_entries_map {other : κ → α → α}
    (hother : ∀ key value outcome, change key value = (value, outcome) →
      change key (other key value) = (other key value, outcome))
    (h : changeEntries change entries = (entries, outcome)) :
    changeEntries change (entries.map fun (key, value) => (key, other key value)) =
      (entries.map fun (key, value) => (key, other key value), outcome) := by
  induction entries generalizing outcome with
  | nil => exact h
  | cons entry rest ih =>
      obtain ⟨key, value⟩ := entry
      cases hchange : change key value with
      | mk changed failure =>
          simp only [changeEntries, hchange] at h
          cases failure with
          | some failure =>
              obtain ⟨⟨rfl, -⟩, rfl⟩ : (changed = value ∧ True) ∧ some failure = outcome := by
                simpa using h
              simp [changeEntries, hother key _ _ hchange]
          | none =>
              obtain ⟨⟨rfl, hrest⟩, hfailure⟩ :
                  (changed = value ∧ (changeEntries change rest).1 = rest) ∧
                    (changeEntries change rest).2 = outcome := by
                simpa using h
              simp [changeEntries, hother key _ _ hchange, ih (Prod.ext hrest hfailure)]

end Entries

namespace Store

variable {store later : Store} {outcome : Option Failure}

/-! ## Closing again -/

/-- A job that was closed is closed in the same way again. -/
theorem close_job_close (id : Int) (job : Job) :
    store.closeJob id (store.closeJob id job).1 = store.closeJob id job := by
  unfold closeJob
  cases store.jobEnds.find? id with
  | none => rfl
  | some jobEnd =>
      simp only [Job.close, writeDuration]
      cases h : Elapsed.optionText (Elapsed.between job.start (some jobEnd.time)) <;> simp [h]

/-- A stage attempt that was closed is closed in the same way again. -/
theorem close_stage_close (key : StageKey) (stage : Stage) :
    store.closeStage key (store.closeStage key stage).1 = store.closeStage key stage := by
  unfold closeStage
  cases store.completion? key with
  | none => rfl
  | some completion =>
      simp only [Stage.close, Stage.withTimes, writeDuration]
      cases h : Elapsed.optionText
          (Elapsed.between (stage.submitted.or completion.submitted) completion.completed) <;>
        simp [h, Option.or_assoc]

/-- A query that was closed is closed in the same way again. -/
theorem close_query_close (id : Int) (query : Query) :
    store.closeQuery id (store.closeQuery id query).1 = store.closeQuery id query := by
  unfold closeQuery
  cases store.queryEnds.find? id with
  | none => rfl
  | some time =>
      simp only [Query.close, writeDuration]
      cases h : Elapsed.optionText (Elapsed.between (some query.start) (some time)) <;> simp [h]

/-- An application that was closed is closed in the same way again. -/
theorem close_application_close (application : Application) :
    store.closeApplication (store.closeApplication application).1 =
      store.closeApplication application := by
  unfold closeApplication Application.close
  cases store.finish with
  | some time =>
      simp only [writeDuration]
      cases h : Elapsed.optionText (Elapsed.between (some application.start) (some time)) <;>
        simp [h]
  | none =>
      cases store.estimatedFinish with
      | some time =>
          simp only [writeDuration]
          cases h : Elapsed.optionText (Elapsed.between (some application.start) (some time)) <;>
            simp [h]
      | none =>
          simp only [writeDuration]
          cases h : Elapsed.optionText (Elapsed.between (some application.start)
              application.finish) <;> simp [h]

/-- Closing a query does not touch what an analysis finds about it. -/
theorem close_query_found (id : Int) (query : Query) (hasDatasetOperation : Bool)
    (qualifyingDuration : Int) (problems : Option String) :
    store.closeQuery id { query with hasDatasetOperation, qualifyingDuration, problems } =
      ({ (store.closeQuery id query).1 with hasDatasetOperation, qualifyingDuration, problems },
        (store.closeQuery id query).2) := by
  unfold closeQuery
  cases store.queryEnds.find? id with
  | none => rfl
  | some time =>
      simp only [Query.close, writeDuration]
      cases Elapsed.optionText (Elapsed.between (some query.start) (some time)) <;> rfl

/-- A query that is closed already stays so when the findings of an analysis are filled in. -/
theorem close_query_with_findings (findings : Findings) {id : Int} {query : Query}
    (h : store.closeQuery id query = (query, outcome)) :
    store.closeQuery id (withFindings findings id query) =
      (withFindings findings id query, outcome) := by
  unfold withFindings
  rw [close_query_found, h]

/-! ## Correlation at rest -/

/-- Pairing jobs with their ends leaves a store alone exactly if it leaves its jobs alone. -/
theorem correlate_jobs_rests_iff : store.correlateJobs = (store, outcome) ↔
    changeEntries store.closeJob store.jobs.entries = (store.jobs.entries, outcome) := by
  constructor
  · intro h
    exact congrArg (fun result => (result.1.jobs.entries, result.2)) h
  · intro h
    exact congrArg (fun result => ({ store with jobs := ⟨result.1⟩ }, result.2)) h

/-- Pairing stage attempts with their completions leaves a store alone exactly if it leaves the
stage attempts alone. -/
theorem correlate_stages_rests_iff : store.correlateStages = (store, outcome) ↔
    changeEntries store.closeStage store.stages.entries = (store.stages.entries, outcome) := by
  constructor
  · intro h
    exact congrArg (fun result => (result.1.stages.entries, result.2)) h
  · intro h
    exact congrArg (fun result => ({ store with stages := ⟨result.1⟩ }, result.2)) h

/-- Pairing queries with their ends leaves a store alone exactly if it leaves its queries alone. -/
theorem correlate_queries_rests_iff : store.correlateQueries = (store, outcome) ↔
    changeEntries store.closeQuery store.queries.entries = (store.queries.entries, outcome) := by
  constructor
  · intro h
    exact congrArg (fun result => (result.1.queries.entries, result.2)) h
  · intro h
    exact congrArg (fun result => ({ store with queries := ⟨result.1⟩ }, result.2)) h

/-- A known application is closed. -/
theorem correlate_application_of {application : Application}
    (h : store.application = some application) :
    store.correlateApplication =
      ({ store with application := some (store.closeApplication application).1 },
        (store.closeApplication application).2) := by
  unfold correlateApplication
  rw [h]
  rfl

/-- Giving the application its end leaves a store alone exactly if it leaves the application alone,
if that is known. -/
theorem correlate_application_rests_iff : store.correlateApplication = (store, outcome) ↔
    (store.application = none → outcome = none) ∧ ∀ application ∈ store.application,
      store.closeApplication application = (application, outcome) := by
  cases happlication : store.application with
  | none =>
      have hnone : store.correlateApplication = (store, none) := by
        unfold correlateApplication
        rw [happlication]
      simp [hnone, eq_comm]
  | some application =>
      rw [correlate_application_of happlication]
      simp only [reduceCtorEq, false_implies, Option.mem_def, Option.some.injEq, forall_eq',
        true_and]
      constructor
      · intro h
        have hclose := congrArg (fun result => (result.1.application, result.2)) h
        simp only [happlication, Prod.mk.injEq, Option.some.injEq] at hclose
        exact Prod.ext hclose.1 hclose.2
      · intro h
        rw [h, ← happlication]

/-- Pairing starts with ends leaves a store alone, whether it gets through or not: each part is at
rest, up to the first that is stopped. -/
inductive Paired (store : Store) : Option Failure → Prop
  | jobs {failure : Failure} :
      store.correlateJobs = (store, some failure) → store.Paired (some failure)
  | stages {failure : Failure} :
      store.correlateJobs = (store, none) → store.correlateStages = (store, some failure) →
      store.Paired (some failure)
  | queries {failure : Failure} :
      store.correlateJobs = (store, none) → store.correlateStages = (store, none) →
      store.correlateQueries = (store, some failure) → store.Paired (some failure)
  | application {outcome : Option Failure} :
      store.correlateJobs = (store, none) → store.correlateStages = (store, none) →
      store.correlateQueries = (store, none) → store.correlateApplication = (store, outcome) →
      store.Paired outcome

/-- Pairing starts with ends leaves a paired store alone. -/
theorem Paired.correlate (h : store.Paired outcome) : store.correlate = (store, outcome) := by
  cases h <;> simp [Store.correlate, Changed.andThen, *]

/-- A store is paired as another one is if it is at rest wherever the other one is. -/
theorem Paired.imp (h : store.Paired outcome)
    (hjobs : ∀ stopped, store.correlateJobs = (store, stopped) →
      later.correlateJobs = (later, stopped))
    (hstages : ∀ stopped, store.correlateStages = (store, stopped) →
      later.correlateStages = (later, stopped))
    (hqueries : ∀ stopped, store.correlateQueries = (store, stopped) →
      later.correlateQueries = (later, stopped))
    (happlication : ∀ stopped, store.correlateApplication = (store, stopped) →
      later.correlateApplication = (later, stopped)) : later.Paired outcome := by
  cases h with
  | jobs h => exact .jobs (hjobs _ h)
  | stages h h' => exact .stages (hjobs _ h) (hstages _ h')
  | queries h h' h'' => exact .queries (hjobs _ h) (hstages _ h') (hqueries _ h'')
  | application h h' h'' hlast =>
      exact .application (hjobs _ h) (hstages _ h') (hqueries _ h'') (happlication _ hlast)

/-- Jobs that are paired in a store are paired in every store with the same jobs and ends. -/
theorem correlate_jobs_congr (h : store.correlateJobs = (store, outcome))
    (hjobs : later.jobs = store.jobs) (hends : later.jobEnds = store.jobEnds) :
    later.correlateJobs = (later, outcome) := by
  have hclose : later.closeJob = store.closeJob := by
    unfold closeJob
    rw [hends]
  rw [correlate_jobs_rests_iff] at h ⊢
  rw [hclose, hjobs, h]

/-- Stage attempts that are paired in a store are paired in every store with the same attempts,
tasks and completions. -/
theorem correlate_stages_congr (h : store.correlateStages = (store, outcome))
    (hstages : later.stages = store.stages) (htasks : later.tasks = store.tasks)
    (hcompletions : later.completions = store.completions) :
    later.correlateStages = (later, outcome) := by
  have hclose : later.closeStage = store.closeStage := by
    unfold closeStage taskSum completion?
    rw [htasks, hcompletions]
  rw [correlate_stages_rests_iff] at h ⊢
  rw [hclose, hstages, h]

/-- Queries that are paired in a store are paired in every store with the same queries and
ends. -/
theorem correlate_queries_congr (h : store.correlateQueries = (store, outcome))
    (hqueries : later.queries = store.queries) (hends : later.queryEnds = store.queryEnds) :
    later.correlateQueries = (later, outcome) := by
  have hclose : later.closeQuery = store.closeQuery := by
    unfold closeQuery
    rw [hends]
  rw [correlate_queries_rests_iff] at h ⊢
  rw [hclose, hqueries, h]

/-- An application that is paired in a store is paired in every store that says the same about
it. -/
theorem correlate_application_congr (h : store.correlateApplication = (store, outcome))
    (happlication : later.application = store.application)
    (hclose : later.closeApplication = store.closeApplication) :
    later.correlateApplication = (later, outcome) := by
  rw [correlate_application_rests_iff] at h ⊢
  rw [hclose, happlication]
  exact h

/-- An application that was given its end is given the same end again. -/
theorem correlate_application_again (store : Store) :
    store.correlateApplication.1.correlateApplication = store.correlateApplication := by
  refine correlate_application_rests_iff.mpr ?_
  cases happlication : store.application with
  | none => simp [correlateApplication, happlication]
  | some application =>
      rw [correlate_application_of happlication]
      simp only [reduceCtorEq, false_implies, Option.mem_def, Option.some.injEq, forall_eq',
        true_and]
      exact store.close_application_close application

/-- Correlation leaves a store paired, whether it gets through or not. -/
theorem paired_correlate (store : Store) : store.correlate.1.Paired store.correlate.2 := by
  -- Each part is at rest behind itself, and the parts behind it leave what it reads and writes.
  unfold correlate
  have hjobs : store.correlateJobs.1.correlateJobs = store.correlateJobs :=
    correlate_jobs_rests_iff.mpr (change_entries_again store.close_job_close)
  generalize store.correlateJobs = outcome at hjobs ⊢
  obtain ⟨store, _ | failure⟩ := outcome
  case some => exact .jobs hjobs
  show ((store.correlateStages.andThen correlateQueries).andThen correlateApplication).1.Paired
    ((store.correlateStages.andThen correlateQueries).andThen correlateApplication).2
  replace hjobs : store.correlateStages.1.correlateJobs = (store.correlateStages.1, none) :=
    correlate_jobs_congr hjobs rfl rfl
  have hstages : store.correlateStages.1.correlateStages = store.correlateStages :=
    correlate_stages_rests_iff.mpr (change_entries_again store.close_stage_close)
  generalize store.correlateStages = outcome at hjobs hstages ⊢
  obtain ⟨store, _ | failure⟩ := outcome
  case some => exact .stages hjobs hstages
  show (store.correlateQueries.andThen correlateApplication).1.Paired
    (store.correlateQueries.andThen correlateApplication).2
  replace hjobs : store.correlateQueries.1.correlateJobs = (store.correlateQueries.1, none) :=
    correlate_jobs_congr hjobs rfl rfl
  replace hstages : store.correlateQueries.1.correlateStages = (store.correlateQueries.1, none) :=
    correlate_stages_congr hstages rfl rfl rfl
  have hqueries : store.correlateQueries.1.correlateQueries = store.correlateQueries :=
    correlate_queries_rests_iff.mpr (change_entries_again store.close_query_close)
  generalize store.correlateQueries = outcome at hjobs hstages hqueries ⊢
  obtain ⟨store, _ | failure⟩ := outcome
  case some => exact .queries hjobs hstages hqueries
  show store.correlateApplication.1.Paired store.correlateApplication.2
  have happlication := store.correlate_application_again
  rw [← Prod.eta store.correlateApplication] at happlication
  rw [correlate_application_eq] at happlication ⊢
  exact .application (correlate_jobs_congr hjobs rfl rfl)
    (correlate_stages_congr hstages rfl rfl rfl) (correlate_queries_congr hqueries rfl rfl)
    happlication

/-- An analysis keeps a store paired. -/
theorem Paired.analyze (h : store.Paired outcome) : store.analyze.Paired outcome := by
  rw [analyze_eq]
  refine h.imp (fun _ hjobs => correlate_jobs_congr hjobs rfl rfl)
    (fun _ hstages => correlate_stages_congr hstages rfl rfl rfl) (fun _ hqueries => ?_)
    (fun _ happlication => correlate_application_congr happlication rfl rfl)
  -- The queries are not the same: findings are filled in.
  rw [correlate_queries_rests_iff] at hqueries ⊢
  exact change_entries_map (fun _ _ _ => close_query_with_findings _) hqueries

/-! ## Analysis again -/

/-- A store says what another one says, if it may list more often what an analysis lists. -/
structure Restates (later store : Store) : Prop where
  rest : later =
    { store with
      metrics := later.metrics, nodeMetrics := later.nodeMetrics, flags := later.flags
      unsupported := later.unsupported }
  metrics : ∀ metric, metric ∈ later.metrics ↔ metric ∈ store.metrics
  nodeMetrics : ∀ metric, metric ∈ later.nodeMetrics ↔ metric ∈ store.nodeMetrics
  flags : ∀ flag, flag ∈ later.flags ↔ flag ∈ store.flags
  unsupported : ∀ node, node ∈ later.unsupported ↔ node ∈ store.unsupported

/-- A store says what it says. -/
theorem Restates.refl (store : Store) : store.Restates store where
  rest := rfl
  metrics _ := .rfl
  nodeMetrics _ := .rfl
  flags _ := .rfl
  unsupported _ := .rfl

/-- All that an analysis tells is in a store already. -/
structure Analyzed (store : Store) : Prop where
  graphs : store.graphs.overrideBy (· == ·)
    (Marks.ofPlans store.accelerated store.plans.entries).graphs = store.graphs
  metrics : (Marks.ofPlans store.accelerated store.plans.entries).metrics ⊆ store.metrics
  nodeMetrics :
    (Marks.ofPlans store.accelerated store.plans.entries).nodeMetrics ⊆ store.nodeMetrics
  flags : (Marks.ofPlans store.accelerated store.plans.entries).flags ⊆ store.flags
  unsupported :
    (Marks.ofPlans store.accelerated store.plans.entries).unsupported ⊆ store.unsupported
  adaptiveMetrics : store.adaptiveMetrics ⊆ store.metrics
  queries : store.queries.mapValues (withFindings (findings store.plans.entries)) = store.queries

/-- Metrics come from a plan, or were declared while queries ran. -/
theorem mem_with_adaptive {metrics adaptive : List QueryMetric} {metric : QueryMetric} :
    metric ∈ withAdaptive metrics adaptive ↔ metric ∈ metrics ∨ metric ∈ adaptive := by
  unfold withAdaptive
  split
  · rename_i hnone
    simp [List.isEmpty_iff.mp hnone]
  · rw [mem_distinct, List.mem_append]

/-- What an analysis tells is in the store behind it. -/
theorem analyzed_analyze (hgraphs : store.graphs.Apart (· == ·)) : store.analyze.Analyzed := by
  rw [analyze_eq]
  exact
    { graphs := Keyed.override_by_twice beq_equivalence hgraphs _
      metrics := fun metric hmem =>
        mem_with_adaptive.mpr (.inl (List.mem_append_right store.metrics hmem))
      nodeMetrics := List.subset_append_right store.nodeMetrics _
      flags := List.subset_append_right store.flags _
      unsupported := List.subset_append_right store.unsupported _
      adaptiveMetrics := fun metric hmem => mem_with_adaptive.mpr (.inr hmem)
      queries := Keyed.map_values_map_values store.queries _ _ }

/-- Behind one more analysis, a store says what it said. -/
theorem Restates.analyze (h : later.Restates store) (hanalyzed : store.Analyzed) :
    later.analyze.Restates store := by
  obtain ⟨metrics, nodeMetrics, flags, unsupported, rfl⟩ :
      ∃ metrics nodeMetrics flags unsupported,
        later = { store with metrics, nodeMetrics, flags, unsupported } := ⟨_, _, _, _, h.rest⟩
  have hmem {α : Type} {items added all : List α} (hitems : ∀ item, item ∈ items ↔ item ∈ all)
      (hadded : added ⊆ all) (item : α) : item ∈ items ++ added ↔ item ∈ all := by
    rw [List.mem_append, hitems, or_iff_left_of_imp fun hmem => hadded hmem]
  rw [analyze_eq]
  exact
    { rest := by simp only [mark, hanalyzed.graphs, hanalyzed.queries]
      metrics := fun metric => by
        refine mem_with_adaptive.trans ?_
        rw [mark, hmem h.metrics hanalyzed.metrics,
          or_iff_left_of_imp fun hmem => hanalyzed.adaptiveMetrics hmem]
      nodeMetrics := hmem h.nodeMetrics hanalyzed.nodeMetrics
      flags := hmem h.flags hanalyzed.flags
      unsupported := hmem h.unsupported hanalyzed.unsupported }

/-- A store that says what a paired store says is paired. -/
theorem Restates.paired (h : later.Restates store) (hpaired : store.Paired outcome) :
    later.Paired outcome := by
  rw [h.rest]
  exact hpaired.imp (fun _ hjobs => correlate_jobs_congr hjobs rfl rfl)
    (fun _ hstages => correlate_stages_congr hstages rfl rfl rfl)
    (fun _ hqueries => correlate_queries_congr hqueries rfl rfl)
    (fun _ happlication => correlate_application_congr happlication rfl rfl)

/-- Stores that say the same do so when they are closed. -/
theorem Restates.finalize (h : later.Restates store) : later.finalize.Restates store.finalize where
  rest := congrArg Store.finalize h.rest
  metrics := h.metrics
  nodeMetrics := h.nodeMetrics
  flags := h.flags
  unsupported := h.unsupported

/-- Stores that say the same answer the same, but for the list of nodes that cannot run
accelerated. -/
theorem Restates.ask (h : later.Restates store) {inquiry : Inquiry}
    (hinquiry : inquiry ≠ .unsupportedNodes) (settings : Settings) (index : Int)
    (tasks : List Task) :
    inquiry.ask later settings index tasks = inquiry.ask store settings index tasks := by
  have hlisting : Listing.planMetrics later index = Listing.planMetrics store index :=
    Listing.plan_metrics_congr index (by rw [h.rest]; rfl) h.metrics h.nodeMetrics
  have hanswer : inquiry.answer later settings index tasks =
      inquiry.answer store settings index tasks := by
    cases inquiry with
    | unsupportedNodes => exact absurd rfl hinquiry
    | planMetrics => exact congrArg (Except.ok ∘ Reply.table) hlisting
    | _ =>
        rw [h.rest]
        rfl
  have hfinalized : later.finalized = store.finalized := by rw [h.rest]
  rw [Inquiry.ask, Inquiry.ask, hanswer, hfinalized]

end Store

/-- Whether a step of a session derives something. -/
def SessionStep.derives : SessionStep → Bool
  | .correlate | .analyze => true
  | _ => false

namespace Session

/-- A session keeps the graphs of queries apart. -/
theorem graphs_apart_run {session : Session} (h : session.store.graphs.Apart (· == ·))
    (steps : List SessionStep) : (session.run steps).1.store.graphs.Apart (· == ·) := by
  refine run_store_invariant (P := fun store => store.graphs.Apart (· == ·))
    (fun settings store event hgraphs => ?_) (fun store hgraphs => ?_) (fun store hgraphs => ?_)
    (fun _ hgraphs => hgraphs) h steps
  · rw [Store.apply_eq_absorb]
    exact hgraphs
  · exact Store.correlate_keeps (P := fun store => store.graphs.Apart (· == ·)) fun _ _ _ _ =>
      hgraphs
  · rw [Store.analyze_eq]
    exact hgraphs.override_by _

/-- A step of a session keeps the graphs of queries apart. -/
theorem graphs_apart_step {session : Session} (h : session.store.graphs.Apart (· == ·))
    (step : SessionStep) : (session.step step).1.store.graphs.Apart (· == ·) :=
  graphs_apart_run h [step]

/-- Behind a step that derives something, the store of a session says what it said. -/
theorem step_restates {session : Session} {store : Store} {outcome : Option Failure}
    (hpaired : store.Paired outcome) (hanalyzed : store.Analyzed)
    (h : session.store.Restates store) {step : SessionStep} (hderives : step.derives = true) :
    (session.step step).1.store.Restates store := by
  cases step with
  | correlate =>
      rw [step_correlate_store, (h.paired hpaired).correlate]
      exact h
  | analyze => exact h.analyze hanalyzed
  | record | event | estimate | finalize | inquire => cases hderives

/-- Behind steps that derive something, the store of a session says what it said. -/
theorem run_restates {session : Session} {store : Store} {outcome : Option Failure}
    (hpaired : store.Paired outcome) (hanalyzed : store.Analyzed)
    (h : session.store.Restates store) {steps : List SessionStep}
    (hderives : ∀ step ∈ steps, step.derives = true) :
    (session.run steps).1.store.Restates store := by
  induction steps generalizing session with
  | nil => exact h
  | cons step rest ih =>
      obtain ⟨hstep, hrest⟩ := List.forall_mem_cons.mp hderives
      exact ih (step_restates hpaired hanalyzed h hstep) hrest

/-- Sessions that say the same answer the same when they are closed, but for the list of nodes that
cannot run accelerated. -/
theorem closed_answer {session later : Session} (h : later.store.Restates session.store)
    (hindex : later.index = session.index) (hsettings : later.settings = session.settings)
    {inquiry : Inquiry} (hinquiry : inquiry ≠ .unsupportedNodes) :
    ((later.step .finalize).1.inquire inquiry).2 =
      ((session.step .finalize).1.inquire inquiry).2 := by
  have htasks : later.store.tasks = session.store.tasks := by rw [h.rest]
  rw [inquire_answer, inquire_answer]
  show StepReply.ofAnswer
      (inquiry.ask later.store.finalize later.settings later.index later.store.tasks) =
    .ofAnswer
      (inquiry.ask session.store.finalize session.settings session.index session.store.tasks)
  rw [h.finalize.ask hinquiry, hsettings, hindex, htasks]

/-- However a session went, further correlations and analyses behind a correlation and an analysis
leave the application, jobs, stage attempts, queries and graphs as they are, and every answer of the
closed store but the list of nodes that cannot run accelerated. -/
theorem run_derived_again (index : Int) (settings : Settings) (steps : List SessionStep)
    {again : List SessionStep} (hagain : ∀ step ∈ again, step.derives = true) :
    let session := (((run { index, settings } steps).1.step .correlate).1.step .analyze).1
    let later := (session.run again).1
    later.store.application = session.store.application ∧ later.store.jobs = session.store.jobs ∧
      later.store.stages = session.store.stages ∧ later.store.queries = session.store.queries ∧
      later.store.graphs = session.store.graphs ∧
      ∀ inquiry, inquiry ≠ .unsupportedNodes →
        ((later.step .finalize).1.inquire inquiry).2 =
          ((session.step .finalize).1.inquire inquiry).2 := by
  intro session later
  have hcorrelated := step_correlate_store (run { index, settings } steps).1
  obtain ⟨outcome, hpaired⟩ : ∃ outcome, session.store.Paired outcome := by
    refine ⟨(run { index, settings } steps).1.store.correlate.2, ?_⟩
    show ((run { index, settings } steps).1.step .correlate).1.store.analyze.Paired _
    rw [hcorrelated]
    exact (Store.paired_correlate _).analyze
  have hempty : ({ index, settings : Session }).store.graphs.Apart (· == ·) := .nil
  have hanalyzed : session.store.Analyzed :=
    Store.analyzed_analyze (graphs_apart_step (graphs_apart_run hempty steps) .correlate)
  have hrestates : later.store.Restates session.store :=
    run_restates hpaired hanalyzed (.refl session.store) hagain
  have hsame := session.run_same again
  refine ⟨?_, ?_, ?_, ?_, ?_, fun inquiry hinquiry =>
    closed_answer hrestates hsame.1 hsame.2 hinquiry⟩
  all_goals rw [hrestates.rest]

/-- A query whose plan has a dataset operation and a metric, which the driver reports on. -/
def plannedQuery : List SessionStep :=
  [ .record (.object
      [ ("Event", .text "org.apache.spark.sql.execution.ui.SparkListenerSQLExecutionStart"),
        ("executionId", .int 1), ("time", .int 10),
        ("sparkPlanInfo", .object
          [ ("nodeName", .text "MapElements"), ("simpleString", .text "MapElements $Lambda$5"),
            ("metrics", .list
              [.object [("name", .text "rows"), ("accumulatorId", .int 4)]]) ]) ]),
    .record (.object
      [ ("Event", .text "org.apache.spark.sql.execution.ui.SparkListenerDriverAccumUpdates"),
        ("executionId", .int 1), ("accumUpdates", .list [.list [.int 4, .int 9]]) ]) ]

/-- Two more analyses and a correlation between them list the metric of the node twice more, and
neither the query nor the table of plan metrics tells. -/
theorem planned_query_derived_again :
    let session := (((run {} plannedQuery).1.step .correlate).1.step .analyze).1
    let later := (session.run [.analyze, .correlate, .analyze]).1
    (session.store.nodeMetrics.length = 1 ∧ later.store.nodeMetrics.length = 3 ∧
      session.store.queries.values.map Query.hasDatasetOperation = [true] ∧
      (Listing.planMetrics session.store 1).rows.length = 1) ∧
      later.store.queries = session.store.queries ∧
      ((later.step .finalize).1.inquire .planMetrics).2 =
        ((session.step .finalize).1.inquire .planMetrics).2 := by
  have hderives : ∀ step ∈ [SessionStep.analyze, .correlate, .analyze], step.derives = true := by
    simp [SessionStep.derives]
  obtain ⟨-, -, -, hqueries, -, hanswers⟩ := run_derived_again 1 {} plannedQuery hderives
  exact ⟨by decide +kernel, hqueries, hanswers .planMetrics (by simp)⟩

end Session

end SparkLog
