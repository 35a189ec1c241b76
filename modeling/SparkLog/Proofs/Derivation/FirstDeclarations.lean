import SparkLog.Proofs.Derivation.Declarations
import SparkLog.Proofs.Log.Reading
import SparkLog.Proofs.Rearrangement.Derivation

/-!
# Metrics of queries, each listed once

The first analysis of a store lists what the nodes of the graphs declare, and behind it what was
declared while queries ran. Each metric comes once, at its first place, unless nothing was declared
while queries ran: then what the nodes declare stays as it is, so that a metric which two nodes
declare is listed twice (`Session.run_metrics_once_iff`).
-/

namespace SparkLog

/-- The metrics that the nodes of graphs of queries declare, node by node. -/
def declaredByNodes (graphs : List (Int × PlanGraph)) : List QueryMetric :=
  graphs.flatMap fun (query, graph) =>
    graph.allNodes.flatMap fun node => node.metrics.map (Store.queryMetric query)

/-- The metrics that an event declares while a query runs. -/
def EventContent.declared : EventContent → List QueryMetric
  | .metricUpdates id metrics => metrics.map (Store.queryMetric id)
  | _ => []

/-- The metrics that a step of a session declares while a query runs. -/
def SessionStep.declared : SessionStep → List QueryMetric
  | .record payload | .event payload =>
    (readEvent? payload).elim [] (·.content.declared)
  | _ => []

/-! ## Nodes -/

namespace Marks

/-- A node declares its metrics once. -/
theorem metrics_of_node (query : Int) (accelerated : Bool) (node : GraphNode) :
    (ofNode query accelerated node).metrics = node.metrics.map (Store.queryMetric query) := by
  have hlabels : ((PlanLabel.ofDescription node.description).map
      (ofLabel query node accelerated)).flatMap metrics = [] := by
    refine List.flatMap_eq_nil_iff.mpr (List.forall_mem_map.mpr fun label _ => ?_)
    rfl
  show List.flatMap metrics (_ ++ [ofMetrics query node]) = _
  rw [List.flatMap_append, hlabels, List.nil_append, List.flatMap_singleton]
  rfl

/-- Plans declare the metrics of the nodes of their graphs. -/
theorem metrics_of_plans (accelerated : Bool) (plans : List (Int × PlanTree)) :
    (ofPlans accelerated plans).metrics =
      declaredByNodes (plans.map (Prod.map id PlanGraph.ofPlan)) := by
  have hplan (entry : Int × PlanTree) : (ofPlan accelerated entry).metrics =
      (PlanGraph.ofPlan entry.2).allNodes.flatMap fun node =>
        node.metrics.map (Store.queryMetric entry.1) := by
    simp [ofPlan, join, List.flatMap_map, metrics_of_node]
  simp only [ofPlans, join, declaredByNodes, List.flatMap_map, hplan]
  rfl

end Marks

namespace Store

variable {store : Store}

/-- What an event adds declares what its content does. -/
theorem Adds.adaptive_metrics {settings : Settings} {event : Event} {content : EventContent}
    {added : Store} (h : Adds settings event content added) :
    added.adaptiveMetrics = content.declared := by
  cases h with
  | @task _ _ _ _ _ _ _ found => cases found <;> rfl
  | _ => rfl

/-- An event adds the metrics that it declares. -/
theorem apply_adaptive_metrics (settings : Settings) (store : Store) (event : Event) :
    (store.apply settings event).1.adaptiveMetrics =
      store.adaptiveMetrics ++ event.content.declared := by
  rw [apply_eq_absorb, ← (alone_adds settings event).adaptive_metrics]
  rfl

/-- A store before its first analysis: there are no graphs and no metrics of them, and no two plans
are of the same query. -/
structure Unanalyzed (store : Store) : Prop where
  graphs : store.graphs = .empty
  metrics : store.metrics = []
  plans : store.plans.Apart (· == ·)

/-- An event is no analysis. -/
theorem apply_unanalyzed (settings : Settings) (store : Store) (event : Event)
    (h : store.Unanalyzed) : (store.apply settings event).1.Unanalyzed := by
  rw [apply_eq_absorb]
  refine ⟨h.graphs, h.metrics, ?_⟩
  show (if store.knowsQuery _ then store.plans
    else store.plans.overrideBy (· == ·) _).Apart (· == ·)
  split
  · exact h.plans
  · exact h.plans.override_by _

/-- A correlation is no analysis. -/
theorem Unanalyzed.correlate (h : store.Unanalyzed) : store.correlate.1.Unanalyzed :=
  correlate_keeps fun _ _ _ _ => ⟨h.graphs, h.metrics, h.plans⟩

/-- The first analysis draws the plan of every query. -/
theorem Unanalyzed.graphs_of_analyze (h : store.Unanalyzed) :
    store.analyze.graphs.entries = store.plans.entries.map (Prod.map id PlanGraph.ofPlan) := by
  rw [analyze_eq]
  show (store.graphs.overrideBy (· == ·) (Marks.ofPlans _ _).graphs).entries = _
  rw [h.graphs, graphs_of_plans, Keyed.override_by_apart (h.plans.map_values _)]
  rfl

/-- The first analysis lists what the nodes of the graphs declare, with what was declared while
queries ran. -/
theorem Unanalyzed.metrics_of_analyze (h : store.Unanalyzed) :
    store.analyze.metrics =
      withAdaptive (declaredByNodes store.analyze.graphs.entries) store.adaptiveMetrics := by
  rw [h.graphs_of_analyze, analyze_eq]
  show withAdaptive (store.metrics ++ (Marks.ofPlans _ _).metrics) _ = _
  rw [h.metrics, Marks.metrics_of_plans, List.nil_append]

/-- Metrics with those that were declared while queries ran are distinct, each at its first place,
exactly if some were declared while queries ran, or the others are distinct. -/
theorem with_adaptive_once_iff {metrics adaptive : List QueryMetric} :
    (withAdaptive metrics adaptive).Nodup ∧
        withAdaptive metrics adaptive = (metrics ++ adaptive).eraseDups ↔
      adaptive ≠ [] ∨ metrics.Nodup := by
  rw [← distinct_eq_erase_dups]
  cases adaptive with
  | nil =>
      have hsame : withAdaptive metrics [] = metrics := rfl
      rw [hsame, List.append_nil, or_iff_right (not_not.mpr rfl)]
      exact and_iff_left_of_imp fun h => (distinct_of_nodup h).symm
  | cons metric rest =>
      refine iff_of_true ⟨?_, rfl⟩ (.inl (List.cons_ne_nil _ _))
      exact distinct_nodup _

end Store

/-! ## Sessions -/

/-- A record adds the metrics that its event declares, if it is read as one. -/
theorem Intake.record_adaptive_metrics (settings : Settings) (intake : Intake) (record : Payload) :
    (intake.record settings record).1.store.adaptiveMetrics =
      intake.store.adaptiveMetrics ++
        (readEvent? record).elim [] (·.content.declared) := by
  unfold readEvent? Intake.record
  rw [← read_record_reading false intake.reads record]
  obtain ⟨reads, ⟨-, event, hread⟩ | ⟨-, failure, hread⟩ | ⟨failure, hread⟩⟩ :=
    read_record_cases intake.reads record
  · rw [hread, hread]
    show (Intake.event settings _ event).1.store.adaptiveMetrics = _
    rw [event_store]
    exact Store.apply_adaptive_metrics settings intake.store event
  · rw [hread, hread]
    cases settings.strict <;> exact (List.append_nil _).symm
  · rw [hread, hread]
    exact (List.append_nil _).symm

namespace Session

/-- A step adds the metrics that it declares. -/
theorem step_adaptive_metrics (session : Session) (step : SessionStep) :
    (session.step step).1.store.adaptiveMetrics =
      session.store.adaptiveMetrics ++ step.declared := by
  cases step with
  | record payload => exact session.intake.record_adaptive_metrics session.settings payload
  | event payload =>
      show (session.takeEvent payload).1.store.adaptiveMetrics =
        session.store.adaptiveMetrics ++ (readEvent? payload).elim [] (·.content.declared)
      unfold takeEvent readEvent?
      split
      · rename_i event hread
        rw [hread]
        show (session.intake.event session.settings event).1.store.adaptiveMetrics = _
        rw [Intake.event_store]
        exact Store.apply_adaptive_metrics session.settings session.store event
      · -- A record without an event is left to the session, which finds nothing in it either.
        rename_i hread
        rw [hread]
        exact session.intake.record_adaptive_metrics session.settings .null
      · rename_i hread
        rw [hread]
        exact (List.append_nil _).symm
  | correlate =>
      rw [step_correlate_store]
      refine Eq.trans ?_ (List.append_nil _).symm
      exact Store.correlate_keeps (P := fun store => store.adaptiveMetrics = _) fun _ _ _ _ => rfl
  | analyze =>
      show session.store.analyze.adaptiveMetrics = _
      rw [Store.analyze_eq]
      exact (List.append_nil _).symm
  | finalize | estimate => exact (List.append_nil _).symm
  | inquire inquiry =>
      refine Eq.trans ?_ (List.append_nil _).symm
      simp only [Session.step, inquire]
      split <;> rfl

/-- A session adds the metrics that its steps declare. -/
theorem run_adaptive_metrics (session : Session) (steps : List SessionStep) :
    (session.run steps).1.store.adaptiveMetrics =
      session.store.adaptiveMetrics ++ steps.flatMap SessionStep.declared := by
  induction steps generalizing session with
  | nil => exact (List.append_nil _).symm
  | cons step rest ih =>
      rw [List.flatMap_cons, ← List.append_assoc, ← step_adaptive_metrics]
      exact ih (session.step step).1

/-- A session without analyses leaves its store without one. -/
theorem run_unanalyzed {session : Session} (h : session.store.Unanalyzed)
    {steps : List SessionStep} (hfirst : SessionStep.analyze ∉ steps) :
    (session.run steps).1.store.Unanalyzed :=
  run_keeps Store.apply_unanalyzed (fun _ h => h.correlate)
    (fun _ h => ⟨h.graphs, h.metrics, h.plans⟩) h fun hmem => absurd hmem hfirst

/-- Whatever a session takes in before its first analysis, the analysis draws the plan of every
query and lists exactly the metrics that nodes of the graphs declare or that were declared while
queries ran. If none were declared while queries ran, the list is what the nodes declare, node by
node. So the metrics are distinct, each at its first place, exactly if some were declared while
queries ran, or the nodes declare none twice. -/
theorem run_metrics_once_iff (index : Int) (settings : Settings) {steps : List SessionStep}
    (hfirst : SessionStep.analyze ∉ steps) :
    let session := (({ index, settings } : Session).run steps).1
    let store := (session.step .analyze).1.store
    let declared := declaredByNodes store.graphs.entries
    let told := steps.flatMap SessionStep.declared
    store.graphs.entries = session.store.plans.entries.map (Prod.map id PlanGraph.ofPlan) ∧
      store.adaptiveMetrics = told ∧
      (∀ metric, metric ∈ store.metrics ↔ metric ∈ declared ∨ metric ∈ told) ∧
      (told = [] → store.metrics = declared) ∧
      (store.metrics.Nodup ∧ store.metrics = (declared ++ told).eraseDups ↔
        told ≠ [] ∨ declared.Nodup) := by
  intro session store declared told
  have hempty : ({ index, settings } : Session).store.Unanalyzed := ⟨rfl, rfl, List.Pairwise.nil⟩
  have hbefore : session.store.Unanalyzed := run_unanalyzed hempty hfirst
  have htold : session.store.adaptiveMetrics = told :=
    (run_adaptive_metrics { index, settings } steps).trans (List.nil_append told)
  have hmetrics : store.metrics = Store.withAdaptive declared told := by
    rw [← htold]
    exact hbefore.metrics_of_analyze
  refine ⟨hbefore.graphs_of_analyze, ?_, fun metric => ?_, fun hnone => ?_, ?_⟩
  · rw [← htold]
    show session.store.analyze.adaptiveMetrics = _
    rw [Store.analyze_eq]
    rfl
  · rw [hmetrics]
    exact Store.mem_with_adaptive
  · rw [hmetrics, hnone]
    rfl
  · rw [hmetrics]
    exact Store.with_adaptive_once_iff

/-- Query 3 starts with a plan of two nodes which declare the same metric. -/
def sharedMetric : SessionStep :=
  .record (.object
    [ ("Event", .text "SparkListenerSQLExecutionStart"), ("executionId", .int 3),
      ("time", .int 10),
      ("sparkPlanInfo", .object
        [ ("nodeName", .text "Project"),
          ("children", .list [metricPlan "Filter" [("rows", 7, "sum"), ("size", 8, "size")]]),
          ("metrics", metricPlan.metricList [("rows", 7, "sum")]) ]) ])

/-- If the query declares metrics while it runs, the metric of the two nodes is listed once. -/
theorem run_metrics_once_told :
    let steps := [metricsTold [("late", 7, "sum")], sharedMetric, metricsTold [("size", 8, "size")]]
    let store := ((run {} steps).1.step .analyze).1.store
    SessionStep.analyze ∉ steps ∧
      store.metrics.Nodup ∧ store.metrics =
        [ { query := 3, name := "rows", accumulator := 7, type := "sum" },
          { query := 3, name := "size", accumulator := 8, type := "size" },
          { query := 3, name := "late", accumulator := 7, type := "sum" } ] := by
  intro steps store
  have hfirst : SessionStep.analyze ∉ steps := by simp [steps, metricsTold, sharedMetric]
  have htold : steps.flatMap SessionStep.declared ≠ [] := by decide +kernel
  obtain ⟨hnodup, -⟩ := (run_metrics_once_iff 1 {} hfirst).2.2.2.2.mpr (.inl htold)
  exact ⟨hfirst, hnodup, by decide +kernel⟩

/-- If it declares none while it runs, the metric of the two nodes is listed twice. -/
theorem run_metrics_twice :
    let store := ((run {} [sharedMetric]).1.step .analyze).1.store
    [sharedMetric].flatMap SessionStep.declared = [] ∧
      store.metrics =
        [ { query := 3, name := "rows", accumulator := 7, type := "sum" },
          { query := 3, name := "rows", accumulator := 7, type := "sum" },
          { query := 3, name := "size", accumulator := 8, type := "size" } ] ∧
      ¬ (store.metrics.Nodup ∧
        store.metrics = (declaredByNodes store.graphs.entries ++
          [sharedMetric].flatMap SessionStep.declared).eraseDups) := by
  decide +kernel

end Session

end SparkLog
