import Mathlib.Data.List.TakeWhile
import SparkLog.Proofs.Plan.Rooted
import SparkLog.Proofs.Plan.Statements
import SparkLog.Proofs.Text.Pieces

/-!
# Drawings are well-formed

A drawing is read statement by statement: four of the graph, then nodes, clusters with their members
and edges, up to the brace that closes the graph (`Outline.ofStatements`). The outline of a drawing
that was written for a graph is that of the graph (`read_document`), whatever names, numbers and
texts are in it. Graphs of plans join operators only, and number their nodes; so in their drawings
all is declared, and nothing twice (`document_shows`).
-/

namespace SparkLog.Dot

open Decimal

/-- What a drawing shows at its top level: a node, or a cluster with its members. Nodes and clusters
come with their labels. -/
inductive Item where
  | node (id : Nat) (label : List Char)
  | cluster (id : Nat) (label : List Char) (members : List (Nat × List Char))

/-- What a drawing shows. -/
structure Outline where
  title : List Char
  items : List Item
  edges : List (Nat × Nat)

/-- The nodes that an item declares. -/
def Item.declared : Item → List Nat
  | .node id _ => [id]
  | .cluster _ _ members => members.map Prod.fst

/-- The cluster that an item is, with the nodes that it declares. -/
def Item.cluster? : Item → Option (Nat × List Nat)
  | .node .. => none
  | .cluster id _ members => some (id, members.map Prod.fst)

namespace Outline

/-- The nodes that a drawing declares. -/
def declared (outline : Outline) : List Nat :=
  outline.items.flatMap Item.declared

/-- The clusters of a drawing, each with the nodes that it declares. -/
def clusters (outline : Outline) : List (Nat × List Nat) :=
  outline.items.filterMap Item.cluster?

/-- An outline with one more item in front. -/
def add (item : Item) (outline : Outline) : Outline :=
  { outline with items := item :: outline.items }

/-- An outline with one more edge in front. -/
def addEdge (edge : Nat × Nat) (outline : Outline) : Outline :=
  { outline with edges := edge :: outline.edges }

mutual

/-- The outline of a graph with some title, behind its header. -/
def readBody (title : List Char) : List Statement → Option Outline
  | [.close, .blank] => some ⟨title, [], []⟩
  | .node id label :: rest => (readBody title rest).map (add (.node id label))
  | .edge input reader :: rest => (readBody title rest).map (addEdge (input, reader))
  | .cluster id :: .label label :: .dashed :: rest =>
    (readMembers title rest).map fun (members, outline) => outline.add (.cluster id label members)
  | _ => none

/-- The members of a cluster, and the outline behind the cluster. -/
def readMembers (title : List Char) :
    List Statement → Option (List (Nat × List Char) × Outline)
  | .node id label :: rest =>
    (readMembers title rest).map fun (members, outline) => ((id, label) :: members, outline)
  | .close :: rest => (readBody title rest).map fun outline => ([], outline)
  | _ => none

end

/-- The outline of a whole drawing. -/
def ofStatements : List Statement → Option Outline
  | .graph :: .label title :: .labelPlace :: .nodeShape :: rest => readBody title rest
  | _ => none

/-- The outline of a text. -/
def ofText (text : String) : Option Outline := do
  let statements ← (Text.pieces '\n' text.toList).mapM Statement.read
  ofStatements statements

end Outline

/-! ## Statements of a graph -/

section Graph

variable (graph : PlanGraph) (query : Int) (application : String) (values : Values)

/-- What is shown of a node outside of all clusters. -/
def itemOf (node : GraphNode) : Item :=
  if node.isCluster then
    .cluster node.id (label node query values).toList
      ((graph.members node.id).map fun member => (member.id, (label member query values).toList))
  else .node node.id (label node query values).toList

/-- The outline of a graph. -/
def outlineOf : Outline where
  title := escapeChars (application ++ " query " ++ intText query).toList
  items := graph.topLevel.map (itemOf graph query values)
  edges := graph.edges

/-- The statement that declares an operator. -/
def operatorStatement (node : GraphNode) : Statement :=
  .node node.id (label node query values).toList

/-- The statements of a node that is drawn outside of all clusters. -/
def nodeStatements (node : GraphNode) : List Statement :=
  if node.isCluster then
    [.cluster node.id, .label (label node query values).toList, .dashed] ++
      (graph.members node.id).map (operatorStatement query values) ++ [.close]
  else [operatorStatement query values node]

/-- The statements of the drawing of a graph. -/
def statements : List Statement :=
  [ .graph, .label (escapeChars (application ++ " query " ++ intText query).toList), .labelPlace,
    .nodeShape ] ++
  graph.topLevel.flatMap (nodeStatements graph query values) ++
  graph.edges.map (fun edge => .edge edge.1 edge.2) ++ [.close]

variable {graph query application values}

/-- The statements of operators are read as members, up to the brace behind them. -/
theorem read_members_of {title : List Char} (members : List GraphNode) {rest : List Statement}
    {outline : Outline} (h : Outline.readBody title rest = some outline) :
    Outline.readMembers title (members.map (operatorStatement query values) ++ .close :: rest) =
      some (members.map fun member => (member.id, (label member query values).toList),
        outline) := by
  induction members with
  | nil =>
      simp only [List.map_nil, List.nil_append, Outline.readMembers, h]
      rfl
  | cons member members ih =>
      simp only [List.map_cons, List.cons_append, operatorStatement, Outline.readMembers] at ih ⊢
      rw [ih]
      rfl

/-- The statements of a node are read as what is shown of it. -/
theorem read_node_statements {title : List Char} (node : GraphNode) {rest : List Statement}
    {outline : Outline} (h : Outline.readBody title rest = some outline) :
    Outline.readBody title (nodeStatements graph query values node ++ rest) =
      some (outline.add (itemOf graph query values node)) := by
  unfold nodeStatements itemOf
  split
  · simp only [List.cons_append, List.nil_append, List.append_assoc, Outline.readBody]
    rw [read_members_of _ h]
    rfl
  · simp only [List.cons_append, List.nil_append, operatorStatement, Outline.readBody, h]
    rfl

/-- The statements of nodes are read one node after the other. -/
theorem read_nodes_statements {title : List Char} (nodes : List GraphNode) {rest : List Statement}
    {outline : Outline} (h : Outline.readBody title rest = some outline) :
    Outline.readBody title (nodes.flatMap (nodeStatements graph query values) ++ rest) =
      some { outline with items := nodes.map (itemOf graph query values) ++ outline.items } := by
  induction nodes with
  | nil => exact h
  | cons node nodes ih =>
      rw [List.flatMap_cons, List.append_assoc, read_node_statements node ih]
      rfl

/-- The statements of edges are read one after the other. -/
theorem read_edge_statements {title : List Char} (edges : List (Nat × Nat))
    {rest : List Statement} {outline : Outline}
    (h : Outline.readBody title rest = some outline) :
    Outline.readBody title (edges.map (fun edge => .edge edge.1 edge.2) ++ rest) =
      some { outline with edges := edges ++ outline.edges } := by
  induction edges with
  | nil => exact h
  | cons edge edges ih =>
      simp only [List.map_cons, List.cons_append, Outline.readBody]
      rw [ih]
      rfl

/-- The statements of a graph, with nothing behind them, are read as its outline. -/
theorem of_statements :
    Outline.ofStatements (statements graph query application values ++ [.blank]) =
      some (outlineOf graph query application values) := by
  simp only [statements, List.cons_append, List.nil_append, List.append_assoc,
    Outline.ofStatements]
  rw [read_nodes_statements _ (read_edge_statements _ (by simp only [Outline.readBody]; rfl))]
  simp [outlineOf]

end Graph

/-! ## Lines of a graph -/

/-- What stands behind the first quote of a line, if it has one. -/
def behindQuote? (line : List Char) : Option (List Char) :=
  (line.dropWhile (· != '"')).tail?

/-- The first quote behind the opening one that no backslash escapes closes the label of a line: the
statement ends behind it. -/
def ClosesLabel (line : List Char) : Prop :=
  ∀ rest ∈ behindQuote? line, ∃ text after,
    quoted rest = some (text, after) ∧ (after = ";".toList ∨ after = "];".toList)

/-- A text is a line, and the line reads as a statement. -/
structure Says (line : String) (statement : Statement) : Prop where
  read : Statement.read line.toList = some statement
  whole : '\n' ∉ line.toList
  closes : ClosesLabel line.toList

/-- The characters of a text without quotes are none. -/
theorem ne_quote_of_not_mem {cs : List Char} (h : '"' ∉ cs) : ∀ c ∈ cs, (c != '"') = true := by
  intro c hc
  rw [bne_iff_ne]
  rintro rfl
  exact h hc

/-- A line without quotes says what it reads as. -/
theorem says_of_no_quote {line : String} {statement : Statement}
    (h : Statement.read line.toList = some statement) (hwhole : '\n' ∉ line.toList)
    (hquote : '"' ∉ line.toList) : Says line statement where
  read := h
  whole := hwhole
  closes rest hrest := by
    have hnone : line.toList.dropWhile (· != '"') = [] :=
      List.dropWhile_eq_nil_iff.mpr (ne_quote_of_not_mem hquote)
    simp [behindQuote?, hnone] at hrest

/-- An escaped text has no line breaks. -/
theorem newline_not_mem_escape (cs : List Char) : '\n' ∉ escapeChars cs := by
  intro hmem
  obtain ⟨c, -, hc⟩ := List.mem_flatMap.mp hmem
  unfold escapeChar at hc
  split at hc
  · simp at hc
  · split at hc
    · simp at hc
    · split at hc
      · simp at hc
      · exact absurd (List.mem_singleton.mp hc).symm ‹_›

/-- A line with an escaped text between quotes says what it reads as. -/
theorem says_of_label {line : String} {front text tail : List Char} {statement : Statement}
    (h : Statement.read line.toList = some statement)
    (hline : line.toList = front ++ '"' :: (escapeChars text ++ '"' :: tail))
    (hwhole : '\n' ∉ front) (hquote : '"' ∉ front)
    (htail : tail = ";".toList ∨ tail = "];".toList) : Says line statement where
  read := h
  whole := by
    have hend : '\n' ∉ tail := by
      obtain rfl | rfl := htail <;> decide
    simp [hline, hwhole, newline_not_mem_escape, hend]
  closes rest hrest := by
    have hdrop : line.toList.dropWhile (· != '"') = '"' :: (escapeChars text ++ '"' :: tail) := by
      rw [hline, List.dropWhile_append_of_pos (ne_quote_of_not_mem hquote)]
      rfl
    rw [behindQuote?, hdrop, List.tail?_cons, Option.mem_some_iff] at hrest
    exact ⟨_, _, hrest ▸ quoted_escape text tail, htail⟩

/-- Of lines that say statements, each says one. -/
theorem exists_says {texts : List String} {statements : List Statement}
    (h : List.Forall₂ Says texts statements) {line : String} (hline : line ∈ texts) :
    ∃ statement, Says line statement := by
  induction h with
  | nil => cases hline
  | cons hsays _ ih =>
      obtain rfl | hrest := List.mem_cons.mp hline
      · exact ⟨_, hsays⟩
      · exact ih hrest

section Graph

variable {graph : PlanGraph} {query : Int} {application : String} {values : Values}

/-- The line of an edge says so. -/
theorem says_edge_line (edge : Nat × Nat) : Says (edgeLine edge) (.edge edge.1 edge.2) := by
  refine says_of_no_quote (read_edge_line edge) ?_ ?_
  all_goals
    rw [edge_line_eq]
    simp [not_mem_digits]

/-- The line that opens a cluster says so. -/
theorem says_cluster_line (id : Nat) :
    Says ("  subgraph cluster_" ++ intText id ++ " \x7b") (.cluster id) := by
  refine says_of_no_quote (read_cluster_line id) ?_ ?_
  all_goals
    rw [cluster_line_eq]
    simp [not_mem_digits]

/-- The line of an operator says so, however far it is indented. -/
theorem says_operator_line (node : GraphNode) {indent : String}
    (h : ∀ c ∈ indent.toList, c = ' ') :
    Says (indent ++ operatorLine node query values) (operatorStatement query values node) := by
  obtain ⟨text, hlabel⟩ := label_eq_escape node query values
  have hindent {c : Char} (hc : c ≠ ' ') : c ∉ indent.toList := fun hmem => hc (h c hmem)
  have hline : (indent ++ operatorLine node query values).toList =
      (indent.toList ++ ("node_".toList ++ (digits node.id ++ " [label=".toList))) ++
        '"' :: (escapeChars text ++ '"' :: "];".toList) := by
    rw [String.toList_append, operator_line_eq, hlabel]
    simp
  have hread : Statement.read (indent ++ operatorLine node query values).toList =
      some (operatorStatement query values node) := by
    rw [String.toList_append, Statement.read_indent h, read_operator_line]
    rfl
  refine says_of_label hread hline ?_ ?_ (.inr rfl)
  all_goals simp [hindent, not_mem_digits]

/-- The line of a label says so, however far it is indented. -/
theorem says_label_line (indent : List Char) {front label : String} {text : List Char}
    (hfront : front.toList = indent ++ "label=\"".toList) (h : ∀ c ∈ indent, c = ' ')
    (hlabel : label.toList = escapeChars text) :
    Says (front ++ label ++ "\";") (.label label.toList) := by
  have hindent {c : Char} (hc : c ≠ ' ') : c ∉ indent := fun hmem => hc (h c hmem)
  have hline : (front ++ label ++ "\";").toList =
      (indent ++ "label=".toList) ++ '"' :: (escapeChars text ++ '"' :: ";".toList) := by
    simp [hfront, hlabel]
  have hread : Statement.read (front ++ label ++ "\";").toList = some (.label label.toList) := by
    have hindented : (front ++ label ++ "\";").toList =
        indent ++ ("label=\"".toList ++ (escapeChars text ++ '"' :: ";".toList)) := by
      simp [hfront, hlabel]
    rw [hindented, Statement.read_indent h, read_label_line, hlabel]
  refine says_of_label hread hline ?_ ?_ (.inl rfl)
  all_goals simp [hindent]

/-- The lines of a node say so. -/
theorem says_node_lines (node : GraphNode) :
    List.Forall₂ Says (nodeLines graph query values node)
      (nodeStatements graph query values node) := by
  obtain ⟨text, hlabel⟩ := label_eq_escape node query values
  unfold nodeLines nodeStatements
  split
  · have hlabelled : Says ("    label=\"" ++ label node query values ++ "\";")
        (.label (label node query values).toList) :=
      says_label_line "    ".toList (by decide) (by simp) hlabel
    have hdashed : Says "    style=dashed;" .dashed :=
      says_of_no_quote (by decide) (by decide) (by decide)
    have hmembers : List.Forall₂ Says
        ((graph.members node.id).map fun member => "    " ++ operatorLine member query values)
        ((graph.members node.id).map (operatorStatement query values)) := by
      rw [List.forall₂_map_left_iff, List.forall₂_map_right_iff, List.forall₂_same]
      exact fun member _ => says_operator_line member (by simp)
    have hclose : Says "  \x7d" .close := says_of_no_quote (by decide) (by decide) (by decide)
    have hopen : List.Forall₂ Says
        ["  subgraph cluster_" ++ intText node.id ++ " \x7b",
          "    label=\"" ++ label node query values ++ "\";", "    style=dashed;"]
        [.cluster node.id, .label (label node query values).toList, .dashed] :=
      .cons (says_cluster_line node.id) (.cons hlabelled (.cons hdashed .nil))
    exact List.rel_append (List.rel_append hopen hmembers) (.cons hclose .nil)
  · exact .cons (says_operator_line node (by simp)) .nil

/-- The characters of an integer are written as they are. -/
theorem escape_int_chars (n : Int) : escapeChars (intChars n) = intChars n := by
  have hplain : ∀ c ∈ intChars n, escapeChar c = [c] := by
    intro c hmem
    have hother : c ≠ '\\' ∧ c ≠ '"' ∧ c ≠ '\n' := by
      refine ⟨?_, ?_, ?_⟩
      all_goals
        rintro rfl
        exact absurd hmem (not_mem_int_chars (by decide) (by decide) n)
    rw [escapeChar, if_neg hother.1, if_neg hother.2.1, if_neg hother.2.2]
  exact (List.flatMap_congr hplain).trans (List.flatMap_singleton' _)

/-- The title of a drawing is escaped. -/
theorem title_eq_escape : (escape application ++ " query " ++ intText query).toList =
    escapeChars (application ++ " query " ++ intText query).toList := by
  have hword : escapeChars " query ".toList = " query ".toList := by decide
  simp only [escape, intText, String.toList_append, String.toList_ofList]
  unfold escapeChars
  rw [List.flatMap_append, List.flatMap_append]
  exact congrArg₂ _ (congrArg _ hword.symm) (escape_int_chars query).symm

/-- The lines of a drawing say what the statements of the graph are. -/
theorem says_lines : List.Forall₂ Says (lines graph query application values)
    (statements graph query application values) := by
  have hgraph : Says "digraph G \x7b" .graph :=
    says_of_no_quote (by decide) (by decide) (by decide)
  have htitle : Says ("  label=\"" ++ escape application ++ " query " ++ intText query ++ "\";")
      (.label (escapeChars (application ++ " query " ++ intText query).toList)) := by
    have hsays : Says ("  label=\"" ++ (escape application ++ " query " ++ intText query) ++ "\";")
        (.label (escape application ++ " query " ++ intText query).toList) :=
      says_label_line "  ".toList (by decide) (by simp) title_eq_escape
    rwa [title_eq_escape, ← String.append_assoc, ← String.append_assoc] at hsays
  have hplace : Says "  labelloc=t;" .labelPlace :=
    says_of_no_quote (by decide) (by decide) (by decide)
  have hshape : Says "  node [shape=box, fontsize=10];" .nodeShape :=
    says_of_no_quote (by decide) (by decide) (by decide)
  have hnodes : List.Forall₂ Says (graph.topLevel.flatMap (nodeLines graph query values))
      (graph.topLevel.flatMap (nodeStatements graph query values)) := by
    refine List.rel_flatMap (List.forall₂_same.mpr fun node _ => Eq.refl node) ?_
    rintro node _ rfl
    exact says_node_lines node
  have hedges : List.Forall₂ Says (graph.edges.map edgeLine)
      (graph.edges.map fun edge => .edge edge.1 edge.2) := by
    rw [List.forall₂_map_left_iff, List.forall₂_map_right_iff, List.forall₂_same]
    exact fun edge _ => says_edge_line edge
  have hclose : Says "\x7d" .close := says_of_no_quote (by decide) (by decide) (by decide)
  exact List.rel_append (List.rel_append (List.rel_append
    (.cons hgraph (.cons htitle (.cons hplace (.cons hshape .nil)))) hnodes) hedges)
    (.cons hclose .nil)

end Graph

/-! ## Whole drawings -/

/-- Rows that read as statements are read as the list of them. -/
theorem map_m_read {rows : List (List Char)} {statements : List Statement}
    (h : List.Forall₂ (fun row statement => Statement.read row = some statement) rows statements) :
    rows.mapM Statement.read = some statements := by
  induction h with
  | nil => rfl
  | cons hrow _ ih => rw [List.mapM_cons, hrow, ih]; rfl

section Document

variable (graph : PlanGraph) (query : Int) (application : String) (values : Values)

/-- Split at line breaks, a drawing is its lines, and an empty one at the end. -/
theorem pieces_document : Text.pieces '\n' (document graph query application values).toList =
    (lines graph query application values).map String.toList ++ [[]] := by
  have hnonempty : (lines graph query application values).map String.toList ≠ [] := by simp [lines]
  have hwhole : ∀ line ∈ (lines graph query application values).map String.toList,
      '\n' ∉ line := by
    intro line hmem
    obtain ⟨text, htext, rfl⟩ := List.mem_map.mp hmem
    obtain ⟨statement, hsays⟩ := exists_says says_lines htext
    exact hsays.whole
  rw [document, String.toList_append, String.toList_intercalate]
  exact Text.pieces_lines hnonempty hwhole

/-- A drawing reads as the outline of its graph. -/
theorem read_document : Outline.ofText (document graph query application values) =
    some (outlineOf graph query application values) := by
  have hrows : List.Forall₂ (fun row statement => Statement.read row = some statement)
      ((lines graph query application values).map String.toList)
      (statements graph query application values) :=
    List.forall₂_map_left_iff.mpr (says_lines.imp fun _ _ hsays => hsays.read)
  have hread : (Text.pieces '\n' (document graph query application values).toList).mapM
      Statement.read = some (statements graph query application values ++ [.blank]) := by
    rw [pieces_document]
    exact map_m_read (List.rel_append hrows (.cons rfl .nil))
  rw [Outline.ofText, hread]
  exact of_statements

end Document

/-- A drawing shows a graph: it declares each operator once, and each cluster once, with the members
that it has, and its edges are those of the graph and join nodes that are declared. -/
structure Outline.Shows (outline : Outline) (graph : PlanGraph) : Prop where
  declared_once : outline.declared.Nodup
  declared : ∀ id, id ∈ outline.declared ↔ graph.IsOperator id
  clusters_once : (outline.clusters.map Prod.fst).Nodup
  clusters : ∀ id members, (id, members) ∈ outline.clusters ↔
    graph.IsCluster id ∧ members = (graph.members id).map GraphNode.id
  edges : outline.edges = graph.edges
  joined : ∀ edge ∈ outline.edges, edge.1 ∈ outline.declared ∧ edge.2 ∈ outline.declared

/-- The nodes that a drawing declares are the operators of its graph, in reporting order. -/
theorem declared_outline (graph : PlanGraph) (query : Int) (application : String)
    (values : Values) : (outlineOf graph query application values).declared =
      (graph.allNodes.filter (!·.isCluster)).map GraphNode.id := by
  have hitem (node : GraphNode) : (itemOf graph query values node).declared =
      ((if node.isCluster then graph.members node.id ++ [node] else [node]).filter
        (!·.isCluster)).map GraphNode.id := by
    have hmembers : (graph.members node.id).filter (!·.isCluster) = graph.members node.id := by
      refine List.filter_eq_self.mpr fun member hmem => ?_
      simp [GraphNode.isCluster, (PlanGraph.mem_members.mp hmem).2]
    unfold itemOf
    split
    · rename_i hcluster
      simp [Item.declared, hmembers, hcluster]
    · rename_i hoperator
      simp [Item.declared, hoperator]
  rw [Outline.declared, outlineOf, List.flatMap_map, PlanGraph.allNodes, List.filter_flatMap,
    List.map_flatMap]
  exact List.flatMap_congr fun node _ => hitem node

/-- The clusters that a drawing declares are those of its graph. -/
theorem clusters_outline (graph : PlanGraph) (query : Int) (application : String)
    (values : Values) : (outlineOf graph query application values).clusters =
      (graph.topLevel.filter GraphNode.isCluster).map fun node =>
        (node.id, (graph.members node.id).map GraphNode.id) := by
  rw [Outline.clusters, outlineOf, List.filterMap_map, ← List.filterMap_eq_map,
    List.filterMap_filter]
  refine List.filterMap_congr fun node _ => ?_
  rw [Function.comp_apply, itemOf]
  split
  · simp [Item.cluster?]
  · rfl

/-- The outline of a graph whose nodes are numbered, and whose edges join operators, shows it. -/
theorem outline_shows {draft : PlanGraph.Draft} (h : draft.WellFormed) (query : Int)
    (application : String) (values : Values) :
    (outlineOf draft.graph query application values).Shows draft.graph := by
  have hdeclared : ∀ id, id ∈ (outlineOf draft.graph query application values).declared ↔
      draft.graph.IsOperator id := by
    intro id
    simp only [declared_outline, List.mem_map, List.mem_filter, h.mem_all_nodes,
      PlanGraph.IsOperator, Bool.not_eq_true']
    constructor
    · rintro ⟨node, ⟨hnode, hoperator⟩, rfl⟩
      exact ⟨node, hnode, rfl, hoperator⟩
    · rintro ⟨node, hnode, rfl, hoperator⟩
      exact ⟨node, ⟨hnode, hoperator⟩, rfl⟩
  have hids : (draft.graph.allNodes.map GraphNode.id).Nodup :=
    (h.all_nodes_perm.map GraphNode.id).nodup_iff.mpr h.ids_nodup
  refine
    { declared_once := ?_
      declared := hdeclared
      clusters_once := ?_
      clusters := ?_
      edges := rfl
      joined := fun edge hedge => ?_ }
  · rw [declared_outline]
    exact hids.sublist (List.filter_sublist.map GraphNode.id)
  · rw [clusters_outline, List.map_map]
    exact h.ids_nodup.sublist ((List.filter_sublist.trans List.filter_sublist).map GraphNode.id)
  · intro id members
    simp only [clusters_outline, List.mem_map, List.mem_filter, Prod.mk.injEq,
      PlanGraph.IsCluster]
    constructor
    · rintro ⟨node, ⟨hnode, hcluster⟩, rfl, rfl⟩
      exact ⟨⟨node, (PlanGraph.mem_top_level.mp hnode).1, rfl, hcluster⟩, rfl⟩
    · rintro ⟨⟨node, hnode, rfl, hcluster⟩, rfl⟩
      exact ⟨node, ⟨(PlanGraph.cluster_top_level hnode hcluster).1, hcluster⟩, rfl, rfl⟩
  · obtain ⟨hinput, hreader⟩ := h.edges edge hedge
    exact ⟨(hdeclared _).mpr hinput, (hdeclared _).mpr hreader⟩

/-- Whatever names and texts are in it, the drawing of a plan reads as the outline of its graph,
which shows the graph, and in every line the first quote behind the opening one that no backslash
escapes closes the label. -/
theorem document_shows (plan : PlanTree) (query : Int) (application : String) (values : Values) :
    let graph := PlanGraph.ofPlan plan
    let text := document graph query application values
    (∃ outline, Outline.ofText text = some outline ∧
      outline.title = escapeChars (application ++ " query " ++ intText query).toList ∧
      outline.Shows graph) ∧
      ∀ row ∈ Text.pieces '\n' text.toList, ClosesLabel row := by
  intro graph text
  refine ⟨⟨_, read_document graph query application values, rfl,
    outline_shows (PlanGraph.well_formed_of_plan plan) query application values⟩, ?_⟩
  intro row hrow
  rw [pieces_document, List.mem_append, List.mem_map, List.mem_singleton] at hrow
  obtain ⟨line, hline, rfl⟩ | rfl := hrow
  · obtain ⟨statement, hsays⟩ := exists_says says_lines hline
    exact hsays.closes
  · intro rest hrest
    cases hrest

end SparkLog.Dot
