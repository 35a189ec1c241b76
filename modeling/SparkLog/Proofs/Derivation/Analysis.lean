import SparkLog.Store.Analyze
import SparkLog.Proofs.Keyed

/-!
# What an analysis adds

An analysis goes through plans, nodes and labels and adds to a store as it goes. What it adds
(`Marks`) follows from the plans and from whether the run is accelerated; nothing else of the store
is read (`fold_add_graph`). So an analysis is told by these and by its findings (`analyze_eq`).
-/

namespace SparkLog

/-- What an analysis adds to a store. -/
structure Marks where
  graphs : List (Int × PlanGraph) := []
  flags : List PlanFlag := []
  unsupported : List UnsupportedNode := []
  metrics : List QueryMetric := []
  nodeMetrics : List NodeMetric := []

namespace Marks

/-- Marks behind one another. -/
def join (parts : List Marks) : Marks where
  graphs := parts.flatMap graphs
  flags := parts.flatMap flags
  unsupported := parts.flatMap unsupported
  metrics := parts.flatMap metrics
  nodeMetrics := parts.flatMap nodeMetrics

/-- A dataset operation in an accelerated run cannot run accelerated. -/
def Blocked (accelerated : Bool) (label : PlanLabel × String) : Prop :=
  label.1 = .datasetOperation ∧ accelerated

instance (accelerated : Bool) (label : PlanLabel × String) :
    Decidable (Blocked accelerated label) :=
  inferInstanceAs (Decidable (_ ∧ _))

/-- The marks of a label of a node. -/
def ofLabel (query : Int) (node : GraphNode) (accelerated : Bool) (label : PlanLabel × String) :
    Marks where
  flags :=
    { query, node := node.id, kind := label.1.name, reason := label.2 } ::
      if Blocked accelerated label then
        [{ query, node := node.id, kind := PlanLabel.unsupported.name, reason := node.name }]
      else []
  unsupported :=
    if Blocked accelerated label then
      [{ query, node := node.id, name := node.name, description := node.description }]
    else []

/-- The metrics that a node declares. -/
def ofMetrics (query : Int) (node : GraphNode) : Marks where
  metrics := node.metrics.map fun metric =>
    { query, name := metric.name, accumulator := metric.accumulator, type := metric.type }
  nodeMetrics := node.metrics.map fun metric =>
    { query, node := node.id, name := node.name, description := node.description
      accumulator := metric.accumulator }

/-- The marks of a node: those of its labels, and the metrics that it declares. -/
def ofNode (query : Int) (accelerated : Bool) (node : GraphNode) : Marks :=
  join ((PlanLabel.ofDescription node.description).map (ofLabel query node accelerated) ++
    [ofMetrics query node])

/-- The marks of the plan of a query: its graph, and the marks of the nodes. -/
def ofPlan (accelerated : Bool) (entry : Int × PlanTree) : Marks :=
  join ({ graphs := [(entry.1, PlanGraph.ofPlan entry.2)] } ::
    (PlanGraph.ofPlan entry.2).allNodes.map (ofNode entry.1 accelerated))

/-- The marks of the plans of queries. -/
def ofPlans (accelerated : Bool) (plans : List (Int × PlanTree)) : Marks :=
  join (plans.map (ofPlan accelerated))

end Marks

namespace Store

/-- A store with marks added. -/
def mark (store : Store) (marks : Marks) : Store :=
  { store with
    graphs := store.graphs.overrideBy (· == ·) marks.graphs
    flags := store.flags ++ marks.flags
    unsupported := store.unsupported ++ marks.unsupported
    metrics := store.metrics ++ marks.metrics
    nodeMetrics := store.nodeMetrics ++ marks.nodeMetrics }

/-- Going through items that each add marks adds the marks of all. -/
theorem fold_mark {ι : Type} {step : Store → ι → Store} {marks : Bool → ι → Marks}
    (hstep : ∀ store item, step store item = store.mark (marks store.accelerated item))
    (items : List ι) (store : Store) :
    items.foldl step store = store.mark (.join (items.map (marks store.accelerated))) := by
  induction items generalizing store with
  | nil => simp [mark, Marks.join]
  | cons item rest ih =>
      rw [List.foldl_cons, ih, hstep]
      simp [mark, Marks.join, Keyed.overrideBy]

/-- A label adds its marks. -/
theorem add_label_eq (query : Int) (node : GraphNode) (store : Store)
    (label : PlanLabel × String) :
    addLabel query node store label =
      store.mark (.ofLabel query node store.accelerated label) := by
  by_cases h : label.1 = .datasetOperation ∧ store.accelerated = true
  · have hblocked : Marks.Blocked true label := ⟨h.1, rfl⟩
    simp [addLabel, mark, Marks.ofLabel, h, hblocked]
  · have hblocked : ¬ Marks.Blocked store.accelerated label := h
    simp [addLabel, mark, Marks.ofLabel, h, hblocked]

/-- A node adds its marks. -/
theorem add_node_eq (query : Int) (store : Store) (node : GraphNode) :
    addNode query store node = store.mark (.ofNode query store.accelerated node) := by
  rw [addNode, fold_mark (add_label_eq query node)]
  simp [addMetrics, mark, Marks.ofNode, Marks.ofMetrics, Marks.join]

/-- A plan adds its marks. -/
theorem add_graph_eq (store : Store) (entry : Int × PlanTree) :
    store.addGraph entry.1 entry.2 = store.mark (.ofPlan store.accelerated entry) := by
  rw [addGraph, fold_mark (add_node_eq entry.1)]
  simp [mark, Marks.ofPlan, Marks.join, Keyed.insert, Keyed.overrideBy]

/-- Plans add their marks. -/
theorem fold_add_graph (store : Store) (plans : List (Int × PlanTree)) :
    plans.foldl (fun store (query, plan) => store.addGraph query plan) store =
      store.mark (.ofPlans store.accelerated plans) :=
  fold_mark add_graph_eq plans store

/-- The findings of the plans of queries. -/
def findings (plans : List (Int × PlanTree)) : Findings :=
  plans.foldl (fun findings (query, plan) => findingsOfGraph findings query plan) {}

/-- Metrics with those that were declared while queries ran. -/
def withAdaptive (metrics adaptive : List QueryMetric) : List QueryMetric :=
  if adaptive.isEmpty then metrics else distinct (metrics ++ adaptive)

/-- An analysis adds the marks of the plans, merges the metrics that were declared while queries
ran, and fills in what it found about queries. -/
theorem analyze_eq (store : Store) :
    store.analyze =
      let marked := store.mark (.ofPlans store.accelerated store.plans.entries)
      { marked with
        metrics := withAdaptive marked.metrics store.adaptiveMetrics
        queries := store.queries.mapValues (withFindings (findings store.plans.entries)) } := by
  simp only [analyze, fold_add_graph, mergeAdaptiveMetrics, withAdaptive]
  cases h : store.adaptiveMetrics.isEmpty <;> simp [mark, h, findings]

end Store

end SparkLog
