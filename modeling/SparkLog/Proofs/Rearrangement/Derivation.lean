import SparkLog.Proofs.Derivation.Analysis
import SparkLog.Proofs.Derivation.Correlation
import SparkLog.Proofs.Rearrangement.Sorting
import SparkLog.Proofs.Rearrangement.Store

/-!
# What is derived from records in any order

Correlation looks records up by their keys and adds or compares them, analysis goes through plans
one by one. So what is derived from stores that hold the same in another order is the same in
another order, too (`Rearranges.derive`).
-/

namespace SparkLog

namespace Store

variable {store other : Store}

/-! ## Correlation -/

section Rearranges

variable (h : store.Rearranges other)
include h

/-- A job is closed in the same way. -/
theorem Rearranges.close_job : store.closeJob = other.closeJob := by
  funext id job
  rw [closeJob, closeJob, h.jobEnds.find]

/-- The times of tasks add up to the same. -/
theorem Rearranges.task_sum : store.taskSum = other.taskSum := by
  funext metric key
  exact total_perm ((h.tasks.filter _).map _)

/-- A stage attempt is closed in the same way. -/
theorem Rearranges.close_stage : store.closeStage = other.closeStage := by
  funext key stage
  have hcompletion : store.completion? key = other.completion? key :=
    h.completions.find_by StageKey.agrees_equivalence key
  rw [closeStage, closeStage, h.task_sum, hcompletion]

/-- A query is closed in the same way. -/
theorem Rearranges.close_query : store.closeQuery = other.closeQuery := by
  funext id query
  rw [closeQuery, closeQuery, h.queryEnds.find]

/-- The application is closed in the same way. -/
theorem Rearranges.close_application : store.closeApplication = other.closeApplication := by
  have hends : store.estimatedFinish = other.estimatedFinish := by
    have hperm := (h.jobEnds.values.map JobEnd.time).append h.queryEnds.values
    rw [estimatedFinish, estimatedFinish, max_perm hperm]
  funext application
  rw [closeApplication, closeApplication, h.version, h.accelerated, h.finish, hends]

/-- All that has an end can be closed in one store exactly if it can in the other. -/
theorem Rearranges.closes (hcloses : store.Closes) : other.Closes where
  jobs entry hmem := by
    rw [← h.close_job]
    exact hcloses.jobs entry (h.jobs.entries.mem_iff.mpr hmem)
  stages entry hmem := by
    rw [← h.close_stage]
    exact hcloses.stages entry (h.stages.entries.mem_iff.mpr hmem)
  queries entry hmem := by
    rw [← h.close_query]
    exact hcloses.queries entry (h.queries.entries.mem_iff.mpr hmem)
  application application hmem := by
    rw [← h.close_application]
    exact hcloses.application application (h.application ▸ hmem)

/-- Stores that hold the same in another order do so when all is closed. -/
theorem Rearranges.closed : store.closed.Rearranges other.closed :=
  { h with
    jobs := by
      simp only [Store.closed, h.close_job]
      exact h.jobs.map_values _
    stages := by
      simp only [Store.closed, h.close_stage]
      exact h.stages.map_values _
    queries := by
      simp only [Store.closed, h.close_query]
      exact h.queries.map_values _
    application := by
      simp only [Store.closed, h.close_application, h.application] }

end Rearranges

end Store

/-! ## Findings -/

/-- All labels of the nodes of a plan. -/
def PlanTree.labels (plan : PlanTree) : List (PlanLabel × String) :=
  (PlanGraph.ofPlan plan).allNodes.flatMap fun node => PlanLabel.ofDescription node.description

namespace Findings

/-- What findings say about a query: whether it has a dataset operation, and its issues. -/
def about (findings : Findings) (query : Int) : Bool × Option (List String) :=
  (findings.datasetQueries.contains query, findings.issues.find? query)

/-- What is said about a query when a label of it is noted. -/
def noteAbout (said : Bool × Option (List String)) :
    PlanLabel × String → Bool × Option (List String)
  | (.datasetOperation, _) => (true, said.2)
  | (.potentialIssue, reason) =>
    let issues := said.2.getD []
    (said.1, some (if issues.contains reason then issues else issues ++ [reason]))
  | (.unsupported, _) => said

/-- A label tells something about its query only. -/
theorem about_note (findings : Findings) (query other : Int) (label : PlanLabel × String) :
    (findings.note query label).about other =
      if query = other then noteAbout (findings.about other) label else findings.about other := by
  obtain ⟨label, reason⟩ := label
  by_cases hquery : query = other
  · subst hquery
    cases label <;> simp [note, about, noteAbout, Keyed.alter, Keyed.find_insert]
  · have hquery' : other ≠ query := fun he => hquery he.symm
    cases label <;> simp [note, about, Keyed.alter, Keyed.find_insert, hquery, hquery']

/-- The labels of a plan tell something about its query only. -/
theorem about_graph (findings : Findings) (query other : Int) (plan : PlanTree) :
    (Store.findingsOfGraph findings query plan).about other =
      if query = other then plan.labels.foldl noteAbout (findings.about other)
      else findings.about other := by
  have hlabels : Store.findingsOfGraph findings query plan =
      plan.labels.foldl (note · query) findings := by
    rw [PlanTree.labels, List.foldl_flatMap]
    rfl
  rw [hlabels]
  clear hlabels
  induction plan.labels generalizing findings with
  | nil => simp
  | cons label rest ih =>
      rw [List.foldl_cons, List.foldl_cons, ih, about_note]
      split <;> rfl

/-- What is found about a query depends on the plan of the query only. -/
theorem about_findings (plans : List (Int × PlanTree)) (query : Int) :
    (Store.findings plans).about query = plans.foldl (fun said entry =>
      if entry.1 = query then entry.2.labels.foldl noteAbout said else said) (false, none) :=
  (List.foldl_hom (fun findings : Findings => findings.about query)
    fun findings entry => (about_graph findings entry.1 query entry.2).symm).symm

/-- What is found about queries with one plan each does not depend on the order of plans. -/
theorem about_findings_perm {plans others : List (Int × PlanTree)} (hperm : plans.Perm others)
    (hapart : (plans.map Prod.fst).Nodup) (query : Int) :
    (Store.findings plans).about query = (Store.findings others).about query := by
  rw [about_findings, about_findings]
  refine hperm.foldl_eq' (fun entry hmem entry' hmem' said => ?_) _
  by_cases hentry : entry.1 = query
  · by_cases hentry' : entry'.1 = query
    · -- There is one plan for the query, so both entries are that one.
      rw [List.inj_on_of_nodup_map hapart hmem hmem' (hentry.trans hentry'.symm)]
    · simp [hentry']
  · simp [hentry]

end Findings

namespace Store

variable {store other : Store}

/-- What the findings fill in about a query is what they say about it. -/
theorem with_findings_congr {findings findings' : Findings} {id : Int}
    (h : findings.about id = findings'.about id) (query : Query) :
    withFindings findings id query = withFindings findings' id query := by
  obtain ⟨hdataset, hissues⟩ := Prod.ext_iff.mp h
  simp only [Findings.about] at hdataset hissues
  simp only [withFindings, hdataset, hissues]

/-! ## Analysis -/

/-- A node adds no graph. -/
theorem graphs_of_node (query : Int) (accelerated : Bool) (node : GraphNode) :
    (Marks.ofNode query accelerated node).graphs = [] := by
  refine List.flatMap_eq_nil_iff.mpr fun marks hmem => ?_
  obtain hlabel | hmetrics := List.mem_append.mp hmem
  · obtain ⟨label, -, rfl⟩ := List.mem_map.mp hlabel
    rfl
  · obtain rfl := List.mem_singleton.mp hmetrics
    rfl

/-- A plan adds its graph. -/
theorem graphs_of_plan (accelerated : Bool) (entry : Int × PlanTree) :
    (Marks.ofPlan accelerated entry).graphs = [(entry.1, PlanGraph.ofPlan entry.2)] := by
  simp [Marks.ofPlan, Marks.join, List.flatMap_map, graphs_of_node]

/-- Plans add their graphs, one for each query. -/
theorem graphs_of_plans (accelerated : Bool) (plans : Keyed Int PlanTree) :
    (Marks.ofPlans accelerated plans.entries).graphs =
      (plans.mapValues fun _ plan => PlanGraph.ofPlan plan).entries := by
  rw [Marks.ofPlans, Marks.join, List.flatMap_map]
  simp only [graphs_of_plan]
  exact List.map_eq_flatMap.symm

/-- Metrics with those that were declared while queries ran do not depend on the order, but for the
order of metrics. -/
theorem with_adaptive_perm {metrics metrics' adaptive adaptive' : List QueryMetric}
    (hmetrics : metrics.Perm metrics') (hadaptive : adaptive.Perm adaptive') :
    (withAdaptive metrics adaptive).Perm (withAdaptive metrics' adaptive') := by
  rw [withAdaptive, withAdaptive, hadaptive.isEmpty_eq]
  split
  · exact hmetrics
  · exact distinct_perm fun metric => (hmetrics.append hadaptive).mem_iff

/-- Stores that hold the same in another order do so after an analysis. -/
theorem Rearranges.analyze (h : store.Rearranges other) (hgraphs : store.graphs = .empty) :
    store.analyze.Rearranges other.analyze := by
  have hgraphs' : other.graphs = .empty := by
    have hnone := h.graphs.entries
    rw [hgraphs] at hnone
    exact congrArg Keyed.mk hnone.nil_eq.symm
  have hkeys : (store.plans.entries.map Prod.fst).Nodup := h.plans.apart.nodup
  have hmarks := h.plans.entries.map (Marks.ofPlan store.accelerated)
  rw [analyze_eq, analyze_eq, ← h.accelerated]
  exact
    { h with
      queries := by
        have hfindings : withFindings (findings store.plans.entries) =
            withFindings (findings other.plans.entries) := by
          funext id query
          exact with_findings_congr (Findings.about_findings_perm h.plans.entries hkeys id) query
        simp only [hfindings]
        exact h.queries.map_values _
      graphs := by
        have hplans := h.plans.map_values fun _ plan => PlanGraph.ofPlan plan
        simp only [mark, hgraphs, hgraphs', graphs_of_plans]
        rw [Keyed.override_by_apart hplans.apart,
          Keyed.override_by_apart (hplans.symm beq_equivalence).apart]
        exact hplans
      metrics := with_adaptive_perm (h.metrics.append (hmarks.flatMap_right _)) h.adaptiveMetrics
      nodeMetrics := h.nodeMetrics.append (hmarks.flatMap_right _)
      flags := h.flags.append (hmarks.flatMap_right _)
      unsupported := h.unsupported.append (hmarks.flatMap_right _) }

/-! ## Derived stores -/

/-- Closing a job keeps its identifier. -/
theorem close_job_id (store : Store) (id : Int) (job : Job) :
    (store.closeJob id job).1.id = job.id := by
  unfold closeJob
  split
  · exact write_duration_same Job.id fun _ _ => rfl
  · rfl

/-- Closing a stage attempt keeps its identifiers. -/
theorem close_stage_ids (store : Store) (key : StageKey) (stage : Stage) :
    ((store.closeStage key stage).1.id, (store.closeStage key stage).1.attempt) =
      (stage.id, stage.attempt) := by
  unfold closeStage
  simp only
  split
  · exact write_duration_same (fun stage : Stage => (stage.id, stage.attempt)) fun _ _ => rfl
  · rfl

/-- Identifiers stay different when all is closed. -/
theorem Unambiguous.closed (h : store.Unambiguous) : store.closed.Unambiguous where
  jobs := by
    have hids : store.closed.jobs.values.map Job.id = store.jobs.values.map Job.id := by
      simp [Store.closed, Keyed.values, Keyed.mapValues, close_job_id]
    rw [hids]
    exact h.jobs
  stages := by
    have hids : (store.closed.stages.values.map fun stage => (stage.id, stage.attempt)) =
        store.stages.values.map fun stage => (stage.id, stage.attempt) := by
      simp [Store.closed, Keyed.values, Keyed.mapValues, close_stage_ids]
    rw [hids]
    exact h.stages
  tasks := h.tasks

/-- What is derived from stores that hold the same in another order is the same in another order. -/
theorem Rearranges.derive (h : store.Rearranges other) (hids : store.Unambiguous)
    (hgraphs : store.graphs = .empty) {derived : Store} (hderive : store.derive = .ok derived) :
    ∃ derived', other.derive = .ok derived' ∧ derived.Rearranges derived' ∧
      derived.Unambiguous := by
  obtain ⟨hcloses, rfl⟩ := derive_eq_ok_iff.mp hderive
  have hanalyzed : store.closed.analyze.Rearranges other.closed.analyze := h.closed.analyze hgraphs
  have hids' : store.closed.analyze.Unambiguous := by
    rw [analyze_eq]
    exact { hids.closed with }
  exact ⟨_, derive_eq_ok_iff.mpr ⟨h.closes hcloses, rfl⟩, { hanalyzed with finalized := rfl },
    { hids' with }⟩

end Store

end SparkLog
