import SparkLog.Proofs.Derivation.LargestValues
import SparkLog.Proofs.Derivation.Rederivation

/-!
# Metrics that nodes and queries declare

An analysis writes what a node declares twice: as metrics of the query, and as metrics of the node.
So a metric of a node is always declared by its query too (`Store.Declared`), whatever was declared
before, while queries ran or by an earlier plan, and however often. In the listing of plan metrics,
which joins both with the largest values, no node with a value is left out
(`Session.run_plan_metrics`).
-/

namespace SparkLog

/-- Some metric of its query is of the accumulator of a node. -/
def NodeMetric.DeclaredIn (metrics : List QueryMetric) (node : NodeMetric) : Prop :=
  ∃ metric ∈ metrics, metric.query = node.query ∧ metric.accumulator = node.accumulator

/-- What is declared is declared among more metrics. -/
theorem NodeMetric.DeclaredIn.mono {metrics others : List QueryMetric} {node : NodeMetric}
    (h : node.DeclaredIn metrics) (hsub : metrics ⊆ others) : node.DeclaredIn others := by
  obtain ⟨metric, hmem, hsame⟩ := h
  exact ⟨metric, hsub hmem, hsame⟩

namespace Marks

/-- The metrics of nodes that are marked are declared by metrics of queries that are. -/
def Declared (marks : Marks) : Prop :=
  ∀ node ∈ marks.nodeMetrics, node.DeclaredIn marks.metrics

/-- Marks behind one another are declared if each of them is. -/
theorem declared_join {parts : List Marks} (h : ∀ part ∈ parts, part.Declared) :
    (join parts).Declared := by
  intro node hmem
  obtain ⟨part, hpart, hnode⟩ := List.mem_flatMap.mp hmem
  exact (h part hpart node hnode).mono fun _ hmetric => List.mem_flatMap.mpr ⟨part, hpart, hmetric⟩

/-- The metrics of a node are declared. -/
theorem declared_of_metrics (query : Int) (node : GraphNode) : (ofMetrics query node).Declared := by
  intro found hmem
  obtain ⟨metric, hmetric, rfl⟩ := List.mem_map.mp hmem
  exact ⟨_, List.mem_map_of_mem hmetric, rfl, rfl⟩

/-- The marks of a node are declared. -/
theorem declared_of_node (query : Int) (accelerated : Bool) (node : GraphNode) :
    (ofNode query accelerated node).Declared := by
  refine declared_join fun part hpart => ?_
  obtain hlabel | hmetrics := List.mem_append.mp hpart
  · obtain ⟨label, -, rfl⟩ := List.mem_map.mp hlabel
    exact nofun
  · obtain rfl := List.mem_singleton.mp hmetrics
    exact declared_of_metrics query node

/-- The marks of plans are declared. -/
theorem declared_of_plans (accelerated : Bool) (plans : List (Int × PlanTree)) :
    (ofPlans accelerated plans).Declared := by
  refine declared_join (List.forall_mem_map.mpr fun plan _ => declared_join ?_)
  refine List.forall_mem_cons.mpr ⟨nofun, List.forall_mem_map.mpr fun node _ => ?_⟩
  exact declared_of_node plan.1 accelerated node

end Marks

namespace Store

variable {store : Store}

/-- The metrics of nodes are declared by metrics of queries. -/
def Declared (store : Store) : Prop :=
  ∀ node ∈ store.nodeMetrics, node.DeclaredIn store.metrics

/-- An event declares no metric. -/
theorem apply_declared (settings : Settings) (store : Store) (event : Event) (h : store.Declared) :
    (store.apply settings event).1.Declared := by
  have hgrows := grows_into_apply settings store event
  rw [Declared, hgrows.nodeMetrics, hgrows.metrics]
  exact h

/-- Correlation declares no metric. -/
theorem Declared.correlate (h : store.Declared) : store.correlate.1.Declared :=
  correlate_keeps fun _ _ _ _ => h

/-- An analysis declares the metrics of nodes, and loses none that was declared. -/
theorem Declared.analyze (h : store.Declared) : store.analyze.Declared := by
  rw [analyze_eq]
  intro node hmem
  have hdeclared : node.DeclaredIn
      (store.metrics ++ (Marks.ofPlans store.accelerated store.plans.entries).metrics) := by
    obtain hbefore | hmarked := List.mem_append.mp hmem
    · exact (h node hbefore).mono (List.subset_append_left _ _)
    · exact (Marks.declared_of_plans _ _ node hmarked).mono (List.subset_append_right _ _)
  exact hdeclared.mono fun metric hmetric => mem_with_adaptive.mpr (.inl hmetric)

end Store

namespace Session

/-- A session keeps the metrics of nodes declared. -/
theorem run_declared {session : Session} (h : session.store.Declared) (steps : List SessionStep) :
    (session.run steps).1.store.Declared :=
  run_store_invariant Store.apply_declared (fun _ h => h.correlate) (fun _ h => h.analyze)
    (fun _ h => h) h steps

/-- When its store is closed, a session answers with the listing of plan metrics. -/
theorem plan_metrics_reply {session : Session} (hclosed : session.store.finalized = true) :
    (session.step (.inquire .planMetrics)).2 =
      .reply (.table (Listing.planMetrics session.store session.index)) := by
  have hask : Inquiry.planMetrics.ask session.store session.settings session.index session.tasks =
      .ok (.table (Listing.planMetrics session.store session.index)) := if_pos hclosed
  exact (inquire_answer session .planMetrics).trans (congrArg _ hask)

open Listing in
/-- Whatever a session has come to when its store is closed, the listing of plan metrics has a row
for a metric of a node with a largest value and a name and type under which the query declares the
accumulator, each once and strictly in their order, and no node with a value is left out. -/
theorem run_plan_metrics (index : Int) (settings : Settings) (steps : List SessionStep)
    (hclosed : (({ index, settings } : Session).run steps).1.store.finalized = true) :
    let session := (({ index, settings } : Session).run steps).1
    let store := session.store
    let reply := (session.step (.inquire .planMetrics)).2
    ∃ rows : List PlanMetricRow,
      rows.Pairwise (fun a b => PlanMetricRow.order a b = .lt) ∧
      (∀ row, row ∈ rows ↔ ∃ node ∈ store.nodeMetrics, ∃ metric ∈ store.metrics, ∃ value,
        store.largestValues.find? (node.query, node.accumulator) = some value ∧
          metric.query = node.query ∧ metric.accumulator = node.accumulator ∧
          row =
            { query := node.query, node := node.node, nodeName := node.name
              accumulator := node.accumulator, name := metric.name, type := metric.type, value }) ∧
      (∀ node ∈ store.nodeMetrics, ∀ value,
        store.largestValues.find? (node.query, node.accumulator) = some value →
          ∃ row ∈ rows, row.query = node.query ∧ row.node = node.node ∧
            row.nodeName = node.name ∧ row.accumulator = node.accumulator ∧ row.value = value) ∧
      ∃ table, reply = .reply (.table table) ∧
        table.rows = rows.map (PlanMetricRow.cells index) ∧ table.rows.Nodup := by
  intro session store reply
  have hempty : ({ index, settings } : Session).store.Declared := nofun
  have hdeclared : store.Declared := run_declared hempty steps
  have hindex : session.index = index := (run_same { index, settings } steps).1
  have hreply : reply = .reply (.table (planMetrics store index)) := by
    rw [← hindex]
    exact plan_metrics_reply hclosed
  have hrows := rows_of_plan_metrics store index
  refine ⟨orderedRows store, ordered_rows_sorted store,
    fun row => mem_ordered_rows.trans mem_plan_metric_rows, fun node hnode value hvalue => ?_, ?_⟩
  · -- The analysis that wrote the metric of the node wrote one of its query, which is still there.
    obtain ⟨metric, hmetric, hquery, haccumulator⟩ := hdeclared node hnode
    have hrow := mem_plan_metric_rows.mpr
      ⟨node, hnode, metric, hmetric, value, hvalue, hquery, haccumulator, rfl⟩
    exact ⟨_, mem_ordered_rows.mpr hrow, rfl, rfl, rfl, rfl, rfl⟩
  · refine ⟨_, hreply, hrows, ?_⟩
    rw [hrows, List.nodup_map_iff (PlanMetricRow.cells_injective index)]
    exact nodup_of_sorted (ordered_rows_sorted store)

/-- A plan of one node that declares metrics, each by its name, accumulator and type. -/
def metricPlan (node : String) (metrics : List (String × Int × String)) : Payload :=
  .object [("nodeName", .text node), ("metrics", metricList metrics)]
where
  /-- Metrics as events list them. -/
  metricList (metrics : List (String × Int × String)) : Payload :=
    .list (metrics.map fun (name, accumulator, type) => .object
      [ ("name", .text name), ("accumulatorId", .int accumulator), ("metricType", .text type) ])

/-- An event about query 3 that has a plan. -/
def planTold (event node : String) (metrics : List (String × Int × String)) : SessionStep :=
  .record (.object
    [ ("Event", .text event), ("executionId", .int 3), ("time", .int 10),
      ("sparkPlanInfo", metricPlan node metrics) ])

/-- Metrics are declared while query 3 runs. -/
def metricsTold (metrics : List (String × Int × String)) : SessionStep :=
  .record (.object
    [ ("Event", .text "SparkListenerSQLAdaptiveSQLMetricUpdates"), ("executionId", .int 3),
      ("sqlPlanMetrics", metricPlan.metricList metrics) ])

/-- A query declares metrics before it starts, with its first plan, with the plan that replaces it,
and while it runs. Three analyses take place in between, and one declaration comes behind them. No
value is reported for accumulator 8. -/
def metricsBetween : List SessionStep :=
  [ metricsTold [("early", 7, "sum")],
    planTold "SparkListenerSQLExecutionStart" "Project" [("rows", 7, "sum"), ("size", 8, "size")],
    driverUpdated 3 7 5, .analyze,
    planTold "SparkListenerSQLAdaptiveExecutionUpdate" "Filter"
      [("rows", 7, "sum"), ("time", 9, "timing")],
    metricsTold [("spill", 9, "size")], driverUpdated 3 9 (-2), .analyze, .analyze,
    metricsTold [("late", 7, "sum")], .finalize ]

/-- The rows of the query: of the node of its first plan, too, and under all names that were
declared before the last analysis. -/
def rowsBetween : List Listing.PlanMetricRow :=
  [ row "Filter" 7 "early" "sum" 5, row "Filter" 7 "rows" "sum" 5,
    row "Filter" 9 "spill" "size" (-2), row "Filter" 9 "time" "timing" (-2),
    row "Project" 7 "early" "sum" 5, row "Project" 7 "rows" "sum" 5 ]
where
  /-- A row of the query, whose plans have one node each. -/
  row (nodeName : String) (accumulator : Int) (name type : String) (value : Int) :
      Listing.PlanMetricRow :=
    { query := 3, node := 0, nodeName, accumulator, name, type, value }

/-- The rows are listed once each, in their order, although the metrics of the second node are there
twice. -/
theorem run_plan_metrics_between :
    let session := (run {} metricsBetween).1
    session.store.finalized = true ∧ session.store.nodeMetrics.length = 6 ∧
      (Listing.planMetricRows session.store).length = 10 ∧
      ∃ table, (session.step (.inquire .planMetrics)).2 = .reply (.table table) ∧
        table.rows = rowsBetween.map (Listing.PlanMetricRow.cells 1) ∧ table.rows.Nodup := by
  intro session
  have hclosed : session.store.finalized = true := by decide +kernel
  have hsorted : rowsBetween.Pairwise fun a b => Listing.PlanMetricRow.order a b = .lt := by
    decide +kernel
  have hmembers : (∀ row ∈ Listing.planMetricRows session.store, row ∈ rowsBetween) ∧
      ∀ row ∈ rowsBetween, row ∈ Listing.planMetricRows session.store := by
    decide +kernel
  obtain ⟨rows, hrows, hmem, -, table, hreply, hcells, hnodup⟩ :=
    run_plan_metrics 1 {} metricsBetween hclosed
  obtain rfl : rows = rowsBetween := Listing.sorted_rows_ext hrows hsorted fun row => by
    rw [hmem, ← Listing.mem_plan_metric_rows]
    exact ⟨hmembers.1 row, hmembers.2 row⟩
  exact ⟨hclosed, by decide +kernel, by decide +kernel, table, hreply, hcells, hnodup⟩

end Session

end SparkLog
