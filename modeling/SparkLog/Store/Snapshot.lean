import SparkLog.Store.Basic
import SparkLog.Event.Schema

/-!
# Snapshots of a store

The content of a store, family by family, as payloads: collections in order of arrival, keyed ones
as pairs. Two snapshots tell which families a step has changed.
-/

namespace SparkLog

/-- An event as a payload: its kind, and its attributes in order. -/
def Event.toPayload (event : Event) : Payload :=
  .object
    [ ("kind", .text event.content.kind.name),
      ("fields", .list (event.attributes.map fun (name, value) => .list [.text name, value])) ]

/-- A node of a plan graph as a payload, with the operators of a cluster inside it. -/
def PlanGraph.nodePayload (graph : PlanGraph) (node : GraphNode) : Payload :=
  let own (node : GraphNode) : Fields :=
    [ ("id", .int node.id), ("name", .text node.name), ("desc", .text node.description),
      ("metrics", .list (node.metrics.map PlanMetric.toPayload)) ]
  if node.isCluster then
    .object (own node ++
      [("nodes", .list ((graph.members node.id).map fun member => .object (own member)))])
  else .object (own node)

/-- A plan graph as a payload. -/
def PlanGraph.toPayload (graph : PlanGraph) : Payload :=
  .object
    [ ("nodes", .list (graph.topLevel.map graph.nodePayload)),
      ("edges", .list (graph.edges.map fun edge => .list [.int edge.1, .int edge.2])) ]

/-- A keyed collection as a list of pairs. -/
def Keyed.toPayload {κ α : Type} (key : κ → Payload) (value : α → Payload) (table : Keyed κ α) :
    Payload :=
  .list (table.entries.map fun entry => .list [key entry.1, value entry.2])

namespace Store

/-- The families of a store, by name. -/
def families (store : Store) : Fields :=
  let records {α : Type} (fields : α → Fields) (items : List α) : Payload :=
    .list (items.map fun item => .object (fields item))
  let byInt {α : Type} (fields : α → Fields) (table : Keyed Int α) : Payload :=
    table.toPayload .int fun item => .object (fields item)
  let byText {α : Type} (fields : α → Fields) (table : Keyed String α) : Payload :=
    table.toPayload .text fun item => .object (fields item)
  [ ("finalized", .bool store.finalized),
    ("application", .ofOption (fun a => .object a.fields) store.application),
    ("app_end_time", .ofOption .int store.finish),
    ("spark_version", .text store.version),
    ("accelerated_mode", .bool store.accelerated),
    ("executors", byText Executor.fields store.executors),
    ("executors_removed", records ExecutorRemoval.fields store.executorRemovals),
    ("block_managers", byText BlockManager.fields store.blockManagers),
    ("block_managers_removed", records BlockManagerRemoval.fields store.blockManagerRemovals),
    ("resource_profiles", byInt ResourceProfile.fields store.profiles),
    ("properties",
      store.properties.toPayload (fun key => .list [.text key.1.name, .text key.2])
        fun item => .object item.fields),
    ("jobs", byInt Job.fields store.jobs),
    ("job_ends", byInt JobEnd.fields store.jobEnds),
    ("stages", store.stages.toPayload StageKey.toPayload fun item => .object item.fields),
    ("stage_completions",
      store.completions.toPayload StageKey.toPayload fun item => .object item.fields),
    ("tasks", records Task.fields store.tasks),
    ("sql_executions", byInt Query.fields store.queries),
    ("sql_end_times", store.queryEnds.toPayload .int .int),
    ("sql_plans", store.plans.toPayload .int PlanTree.toPayload),
    ("physical_plan_descriptions", store.planTexts.toPayload .int .text),
    ("sql_plan_metrics_adaptive", records QueryMetric.fields store.adaptiveMetrics),
    ("driver_accums", records DriverUpdate.fields store.driverUpdates),
    ("task_stage_accums", records Accumulable.fields store.accumulables),
    ("plan_graphs", store.graphs.toPayload .int PlanGraph.toPayload),
    ("sql_plan_metrics", records QueryMetric.fields store.metrics),
    ("plan_node_accums", records NodeMetric.fields store.nodeMetrics),
    ("diagnostic_flags", records PlanFlag.fields store.flags),
    ("unsupported_plan_nodes", records UnsupportedNode.fields store.unsupported),
    ("other_events", .list (store.others.map Event.toPayload)) ]

/-- The families of a store that differ by value from those of an earlier one. -/
def changes (before after : Store) : Fields :=
  ((before.families.zip after.families).filter fun (old, new) => !old.2.agrees new.2).map Prod.snd

end Store

end SparkLog
