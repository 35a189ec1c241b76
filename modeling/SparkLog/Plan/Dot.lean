import SparkLog.Plan.Graph
import SparkLog.Decimal.Basic

/-!
# Plan graphs as drawings

A plan graph as a Graphviz document: a box per operator with the largest value of each of its
metrics, a dashed box around the operators of a cluster, and an arrow from each input to its
reader. Texts inside quotes are escaped.
-/

namespace SparkLog.Dot

open Decimal

/-- One character inside a quoted label: a backslash, a quote and a line break are escaped. -/
def escapeChar (c : Char) : List Char :=
  if c = '\\' then ['\\', '\\']
  else if c = '"' then ['\\', '"']
  else if c = '\n' then ['\\', 'n']
  else [c]

/-- The characters of a text inside a quoted label. -/
def escapeChars (cs : List Char) : List Char :=
  cs.flatMap escapeChar

/-- A text inside a quoted label. -/
def escape (text : String) : String :=
  String.ofList (escapeChars text.toList)

/-- The largest value of an accumulator in a query, by query and accumulator. -/
abbrev Values := List ((Int × Int) × Int)

/-- The label of a node: its name, and a line for each metric with a known value. -/
def label (node : GraphNode) (query : Int) (values : Values) : String :=
  let lines := node.metrics.filterMap fun metric =>
    (values.lookup (query, metric.accumulator)).map fun value =>
      metric.name ++ ": " ++ intText value
  escape ("\n".intercalate (node.name :: lines))

/-- The name of the node of an id. -/
def nodeName (id : Nat) : String :=
  "node_" ++ intText id

/-- The line of an operator. -/
def operatorLine (node : GraphNode) (query : Int) (values : Values) : String :=
  nodeName node.id ++ " [label=\"" ++ label node query values ++ "\"];"

/-- The lines of a node that is drawn outside of all clusters. -/
def nodeLines (graph : PlanGraph) (query : Int) (values : Values) (node : GraphNode) :
    List String :=
  if node.isCluster then
    [ "  subgraph cluster_" ++ intText node.id ++ " \x7b",
      "    label=\"" ++ label node query values ++ "\";",
      "    style=dashed;" ] ++
    (graph.members node.id).map (fun member => "    " ++ operatorLine member query values) ++
    [ "  \x7d" ]
  else ["  " ++ operatorLine node query values]

/-- The line of an edge. -/
def edgeLine (edge : Nat × Nat) : String :=
  "  " ++ nodeName edge.1 ++ " -> " ++ nodeName edge.2 ++ ";"

/-- The lines of a drawing. -/
def lines (graph : PlanGraph) (query : Int) (application : String) (values : Values) :
    List String :=
  [ "digraph G \x7b",
    "  label=\"" ++ escape application ++ " query " ++ intText query ++ "\";",
    "  labelloc=t;",
    "  node [shape=box, fontsize=10];" ] ++
  graph.topLevel.flatMap (nodeLines graph query values) ++
  graph.edges.map edgeLine ++ ["\x7d"]

/-- A plan graph as a drawing. -/
def document (graph : PlanGraph) (query : Int) (application : String) (values : Values) :
    String :=
  "\n".intercalate (lines graph query application values) ++ "\n"

end SparkLog.Dot
