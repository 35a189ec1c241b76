import SparkLog.Plan.Basic
import SparkLog.Text.Search

/-!
# Plan graphs

A plan is drawn as a graph. Operators get ids in the order in which they are first met; a
code-generation wrapper becomes a cluster around the operators that it fuses; wrappers that only
pass rows on are skipped; and an exchange that is used again is an edge to the node that it
already has. Edges lead from an input to the operator that reads it.
-/

namespace SparkLog

/-- What a node of a plan graph is: a cluster, or an operator on its own or in a cluster. -/
inductive NodeKind where
  | cluster
  | operator (cluster : Option Nat)
  deriving DecidableEq

/-- A node of a plan graph. -/
structure GraphNode where
  id : Nat
  name : String
  description : String
  metrics : List PlanMetric
  kind : NodeKind
  deriving DecidableEq

/-- A plan graph: its nodes by increasing id, and its edges, each from an input to its reader. -/
structure PlanGraph where
  nodes : List GraphNode
  edges : List (Nat × Nat)
  deriving DecidableEq

namespace GraphNode

/-- Whether a node is drawn outside of all clusters. -/
def isTopLevel (node : GraphNode) : Bool :=
  match node.kind with
  | .cluster => true
  | .operator cluster => cluster.isNone

/-- Whether a node is a cluster. -/
def isCluster (node : GraphNode) : Bool :=
  node.kind == .cluster

/-- Whether a node is an operator inside a given cluster. -/
def isMemberOf (node : GraphNode) (id : Nat) : Bool :=
  node.kind == .operator (some id)

end GraphNode

namespace PlanGraph

/-- The clusters and the operators outside of clusters. -/
def topLevel (graph : PlanGraph) : List GraphNode :=
  graph.nodes.filter GraphNode.isTopLevel

/-- The operators of a cluster. -/
def members (graph : PlanGraph) (id : Nat) : List GraphNode :=
  graph.nodes.filter (GraphNode.isMemberOf · id)

/-- All nodes in reporting order: a cluster stands behind its operators. -/
def allNodes (graph : PlanGraph) : List GraphNode :=
  graph.topLevel.flatMap fun node =>
    if node.isCluster then graph.members node.id ++ [node] else [node]

/-- A graph under construction, and the exchanges that were met, each under what identifies it. -/
structure Draft where
  graph : PlanGraph
  exchanges : List (Payload × Nat)

namespace Draft

/-- The empty draft. -/
def empty : Draft := ⟨⟨[], []⟩, []⟩

/-- The id that the next node gets. -/
def nextId (draft : Draft) : Nat :=
  draft.graph.nodes.length

/-- Add a node for the operator of a plan. -/
def addNode (draft : Draft) (plan : PlanTree) (kind : NodeKind) : Draft :=
  let node : GraphNode :=
    { id := draft.nextId, name := plan.name, description := plan.description
      metrics := plan.metrics, kind }
  { draft with graph := { draft.graph with nodes := draft.graph.nodes ++ [node] } }

/-- Add an edge to the reader of a node, if it has one. -/
def link (draft : Draft) (id : Nat) : Option Nat → Draft
  | none => draft
  | some reader =>
    { draft with graph := { draft.graph with edges := draft.graph.edges ++ [(id, reader)] } }

/-- The node of the latest exchange that is the same as a plan. -/
def exchange? (draft : Draft) (plan : PlanTree) : Option Nat :=
  draft.exchanges.lookup plan.signature

/-- Remember the node of a plan if it is an exchange. -/
def remember (draft : Draft) (plan : PlanTree) (id : Nat) : Draft :=
  if Text.contains plan.name "Exchange" then
    { draft with exchanges := (plan.signature, id) :: draft.exchanges }
  else draft

end Draft

/-- How a plan is drawn, by the name of its operator. -/
inductive Drawing where
  | cluster
  | passed
  | stage
  | reuse
  | node

/-- How an operator of some name with at least one input is drawn. -/
def Drawing.ofName (name : String) : Drawing :=
  if Text.beginsWith name "WholeStageCodegen" then .cluster
  else if name = "InputAdapter" then .passed
  else if name = "BroadcastQueryStage" ∨ name = "ShuffleQueryStage" then .stage
  else if name = "ReusedExchange" then .reuse
  else .node

mutual

/-- Draw a plan below its reader, inside a cluster or outside of all. -/
def draw (reader cluster : Option Nat) : PlanTree → Draft → Draft
  | ⟨name, description, children, metadata, metrics, extras⟩, draft =>
    let plan : PlanTree := ⟨name, description, children, metadata, metrics, extras⟩
    let id := draft.nextId
    let drawn := ((draft.addNode plan (.operator cluster)).remember plan id).link id reader
    match children with
    | [] => drawn
    | first :: rest =>
      match Drawing.ofName name with
      | .cluster => draw reader (some id) first (draft.addNode plan .cluster)
      | .passed => draw reader none first draft
      | .stage =>
        match draft.exchange? first with
        | some exchange => draft.link exchange reader
        | none => draw reader none first draft
      | .reuse =>
        match draft.exchange? first with
        | some exchange => draft.link exchange reader
        | none => drawAll (some id) cluster rest (draw (some id) cluster first drawn)
      | .node => drawAll (some id) cluster rest (draw (some id) cluster first drawn)

/-- Draw plans one after the other below the same reader. -/
def drawAll (reader cluster : Option Nat) : List PlanTree → Draft → Draft
  | [], draft => draft
  | plan :: rest, draft => drawAll reader cluster rest (draw reader cluster plan draft)

end

/-- The graph of a plan. -/
def ofPlan (plan : PlanTree) : PlanGraph :=
  (draw none none plan Draft.empty).graph

end PlanGraph

end SparkLog
