import SparkLog.Store.Basic
import SparkLog.Plan.Label
import SparkLog.Distinct

/-!
# Plan analysis

The plan of every query is drawn as a graph and its nodes are labelled. From this follow the
metrics that a query declares, the nodes that cannot run accelerated, and what of the duration of
a query counts towards qualification.
-/

namespace SparkLog

/-- The findings of an analysis so far: queries with a dataset operation, and the distinct issues
of each query. -/
structure Findings where
  datasetQueries : List Int := []
  issues : Keyed Int (List String) := .empty

namespace Findings

/-- Note a label of a query. -/
def note (findings : Findings) (query : Int) : PlanLabel × String → Findings
  | (.datasetOperation, _) =>
    { findings with datasetQueries := findings.datasetQueries ++ [query] }
  | (.potentialIssue, reason) =>
    { findings with
      issues := findings.issues.alter query [] fun issues =>
        if issues.contains reason then issues else issues ++ [reason] }
  | (.unsupported, _) => findings

end Findings

namespace Store

/-- Record a label of a node. A dataset operation in an accelerated run cannot run accelerated. -/
def addLabel (query : Int) (node : GraphNode) (store : Store) (label : PlanLabel × String) :
    Store :=
  let flag : PlanFlag := { query, node := node.id, kind := label.1.name, reason := label.2 }
  let store := { store with flags := store.flags ++ [flag] }
  if label.1 = .datasetOperation ∧ store.accelerated then
    { store with
      unsupported := store.unsupported ++
        [{ query, node := node.id, name := node.name, description := node.description }]
      flags := store.flags ++
        [{ query, node := node.id, kind := PlanLabel.unsupported.name, reason := node.name }] }
  else store

/-- Record the metrics that a node declares. -/
def addMetrics (query : Int) (node : GraphNode) (store : Store) : Store :=
  { store with
    metrics := store.metrics ++ node.metrics.map fun metric =>
      { query, name := metric.name, accumulator := metric.accumulator, type := metric.type }
    nodeMetrics := store.nodeMetrics ++ node.metrics.map fun metric =>
      { query, node := node.id, name := node.name, description := node.description
        accumulator := metric.accumulator } }

/-- Record all that follows from a node. -/
def addNode (query : Int) (store : Store) (node : GraphNode) : Store :=
  addMetrics query node
    ((PlanLabel.ofDescription node.description).foldl (addLabel query node) store)

/-- Record the graph of a plan and all that follows from its nodes. -/
def addGraph (store : Store) (query : Int) (plan : PlanTree) : Store :=
  let graph := PlanGraph.ofPlan plan
  graph.allNodes.foldl (addNode query) { store with graphs := store.graphs.insert query graph }

/-- What the labels of a graph tell about its query. -/
def findingsOfGraph (findings : Findings) (query : Int) (plan : PlanTree) : Findings :=
  (PlanGraph.ofPlan plan).allNodes.foldl
    (fun findings node =>
      (PlanLabel.ofDescription node.description).foldl (Findings.note · query) findings)
    findings

/-- Merge the metrics that were declared while queries ran; without such metrics the declared ones
stay as they are. -/
def mergeAdaptiveMetrics (store : Store) : Store :=
  if store.adaptiveMetrics.isEmpty then store
  else { store with metrics := distinct (store.metrics ++ store.adaptiveMetrics) }

/-- What of the duration of a query counts towards qualification: all of it, unless a dataset
operation occurs or the query did not end. -/
def qualifying (hasDatasetOperation : Bool) (duration : Option Int) : Int :=
  match hasDatasetOperation, duration with
  | false, some duration => max duration 0
  | _, _ => 0

/-- Fill in what the findings tell about a query. -/
def withFindings (findings : Findings) (id : Int) (query : Query) : Query :=
  let hasDatasetOperation := findings.datasetQueries.contains id
  { query with
    hasDatasetOperation
    problems :=
      match findings.issues.find? id with
      | some (issue :: issues) => some (",".intercalate (issue :: issues))
      | _ => none
    qualifyingDuration := qualifying hasDatasetOperation query.duration }

/-- Analyse the plans of all queries. -/
def analyze (store : Store) : Store :=
  let plans := store.plans.entries
  let findings := plans.foldl (fun findings (query, plan) => findingsOfGraph findings query plan) {}
  let store := plans.foldl (fun store (query, plan) => store.addGraph query plan) store
  let store := store.mergeAdaptiveMetrics
  { store with queries := store.queries.mapValues (withFindings findings) }

end Store

end SparkLog
