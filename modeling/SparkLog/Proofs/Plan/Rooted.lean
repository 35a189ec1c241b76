import Mathlib.Logic.Relation
import Mathlib.Data.List.Perm.Basic
import Mathlib.Data.List.Nodup
import SparkLog.Proofs.Plan.Acyclicity
import SparkLog.Proofs.Plan.Traversal

/-!
# Plan graphs are rooted

A plan graph numbers its nodes from zero in the order in which they are met, every operator stands
outside of all clusters or in exactly one, edges join operators, and all operators lead to one: the
operator that was met first. `Draft.WellFormed` and `Draft.Rooted` are what a draft keeps while a
plan is drawn into it. As long as no operator was met (`Draft.Bare`), there is no reader and no
exchange, so the first operator becomes the root. `of_plan_rooted` says what follows for graphs.
-/

namespace SparkLog.PlanGraph

/-- An id of an operator of the graph. -/
def IsOperator (graph : PlanGraph) (id : Nat) : Prop :=
  ∃ node ∈ graph.nodes, node.id = id ∧ node.isCluster = false

/-- An id of a cluster of the graph. -/
def IsCluster (graph : PlanGraph) (id : Nat) : Prop :=
  ∃ node ∈ graph.nodes, node.id = id ∧ node.isCluster = true

/-- One operator reads the other one. -/
def Feeds (graph : PlanGraph) (input reader : Nat) : Prop :=
  (input, reader) ∈ graph.edges

namespace Draft

/-- Ids are places, members of clusters have one, and edges and remembered exchanges are about
operators. -/
structure WellFormed (draft : Draft) : Prop where
  ids : draft.graph.nodes.map GraphNode.id = List.range draft.graph.nodes.length
  clusters : ∀ node ∈ draft.graph.nodes, ∀ id, node.kind = .operator (some id) →
    draft.graph.IsCluster id
  edges : ∀ edge ∈ draft.graph.edges,
    draft.graph.IsOperator edge.1 ∧ draft.graph.IsOperator edge.2
  exchanges : ∀ entry ∈ draft.exchanges, draft.graph.IsOperator entry.2

/-- All operators lead to the root, and none was met before it. -/
structure Rooted (draft : Draft) (root : Nat) : Prop where
  operator : draft.graph.IsOperator root
  least : ∀ id, draft.graph.IsOperator id → root ≤ id
  reaches : ∀ id, draft.graph.IsOperator id → Relation.ReflTransGen draft.graph.Feeds id root

/-- No operator was met. -/
structure Bare (draft : Draft) : Prop where
  operators : ∀ id, ¬ draft.graph.IsOperator id
  exchanges : draft.exchanges = []

/-- A draft has all nodes of an earlier one, and all its edges. -/
structure Grows (draft later : Draft) : Prop where
  nodes : draft.graph.nodes ⊆ later.graph.nodes
  edges : draft.graph.edges ⊆ later.graph.edges

variable {draft later : Draft} {plan : PlanTree} {id root : Nat} {reader cluster : Option Nat}

/-! ## Growth -/

/-- Growing twice is growing. -/
theorem Grows.trans {last : Draft} (h : draft.Grows later) (h' : later.Grows last) :
    draft.Grows last :=
  ⟨List.Subset.trans h.nodes h'.nodes, List.Subset.trans h.edges h'.edges⟩

/-- A node makes a draft grow. -/
theorem grows_add_node (kind : NodeKind) : draft.Grows (draft.addNode plan kind) :=
  ⟨by simp, by simp⟩

/-- A link makes a draft grow. -/
theorem grows_link : draft.Grows (draft.link id reader) :=
  ⟨by simp, by simp⟩

/-- An operator makes a draft grow. -/
theorem grows_add_operator : draft.Grows (draft.addOperator plan reader cluster) :=
  ⟨by simp [addOperator], by simp [addOperator]⟩

/-- Operators stay operators. -/
theorem Grows.is_operator (h : draft.Grows later) (hid : draft.graph.IsOperator id) :
    later.graph.IsOperator id := by
  obtain ⟨node, hmem, hnode⟩ := hid
  exact ⟨node, h.nodes hmem, hnode⟩

/-- Clusters stay clusters. -/
theorem Grows.is_cluster (h : draft.Grows later) (hid : draft.graph.IsCluster id) :
    later.graph.IsCluster id := by
  obtain ⟨node, hmem, hnode⟩ := hid
  exact ⟨node, h.nodes hmem, hnode⟩

/-- Ways stay ways. -/
theorem Grows.reaches {input output : Nat} (h : draft.Grows later)
    (hway : Relation.ReflTransGen draft.graph.Feeds input output) :
    Relation.ReflTransGen later.graph.Feeds input output := by
  have hfeeds : draft.graph.Feeds ≤ later.graph.Feeds := fun _ _ hfeed => h.edges hfeed
  exact Relation.ReflTransGen.mono hfeeds _ _ hway

/-! ## Steps -/

/-- A cluster brings no operator. -/
@[simp]
theorem is_operator_add_cluster :
    (draft.addNode plan .cluster).graph.IsOperator id ↔ draft.graph.IsOperator id := by
  simp [IsOperator, nodeOf, GraphNode.isCluster, or_and_right, exists_or]

/-- A cluster that is added is there. -/
theorem is_cluster_next : (draft.addNode plan .cluster).graph.IsCluster draft.nextId :=
  ⟨draft.nodeOf plan .cluster, by simp, rfl, rfl⟩

/-- An operator that is added is there, beside those before. -/
@[simp]
theorem is_operator_add_operator :
    (draft.addOperator plan reader cluster).graph.IsOperator id ↔
      draft.graph.IsOperator id ∨ draft.nextId = id := by
  simp [IsOperator, addOperator, nodeOf, GraphNode.isCluster, or_and_right, exists_or]

/-- A link brings no operator. -/
@[simp]
theorem is_operator_link {linked : Nat} :
    (draft.link linked reader).graph.IsOperator id ↔ draft.graph.IsOperator id := by
  simp [IsOperator]

/-- In a well-formed draft, the ids of operators are smaller than the next id. -/
theorem WellFormed.lt_next (h : draft.WellFormed) (hid : draft.graph.IsOperator id) :
    id < draft.nextId := by
  obtain ⟨node, hmem, rfl, -⟩ := hid
  have hrange := List.mem_map_of_mem (f := GraphNode.id) hmem
  rw [h.ids] at hrange
  exact List.mem_range.mp hrange

/-- The ids stay places when a node is added. -/
theorem WellFormed.ids_add_node (h : draft.WellFormed) (kind : NodeKind) :
    (draft.graph.nodes ++ [draft.nodeOf plan kind]).map GraphNode.id =
      List.range (draft.graph.nodes ++ [draft.nodeOf plan kind]).length := by
  rw [List.map_append, h.ids, List.length_append, List.length_singleton, List.range_succ]
  rfl

/-- A cluster keeps a draft well-formed. -/
theorem WellFormed.add_cluster (h : draft.WellFormed) :
    (draft.addNode plan .cluster).WellFormed where
  ids := h.ids_add_node .cluster
  clusters := by
    intro node hmem id hkind
    obtain hold | hnew := List.mem_append.mp hmem
    · exact (grows_add_node .cluster).is_cluster (h.clusters node hold id hkind)
    · obtain rfl := List.mem_singleton.mp hnew
      cases hkind
  edges := by simpa using h.edges
  exchanges := by simpa using h.exchanges

/-- Linking an operator to an operator keeps a draft well-formed. -/
theorem WellFormed.link (h : draft.WellFormed) (hid : draft.graph.IsOperator id)
    (hreader : ∀ reading ∈ reader, draft.graph.IsOperator reading) :
    (draft.link id reader).WellFormed where
  ids := by simpa using h.ids
  clusters := by
    intro node hmem cluster hkind
    rw [nodes_link] at hmem
    exact grows_link.is_cluster (h.clusters node hmem cluster hkind)
  edges := by
    intro edge hmem
    rw [edges_link] at hmem
    simp only [is_operator_link]
    obtain hold | hnew := List.mem_append.mp hmem
    · exact h.edges edge hold
    · obtain ⟨reading, hreading, rfl⟩ := Option.map_eq_some_iff.mp (Option.mem_toList.mp hnew)
      exact ⟨hid, hreader reading hreading⟩
  exchanges := by simpa using h.exchanges

/-- An operator keeps a draft well-formed if its reader is an operator and its cluster a cluster. -/
theorem WellFormed.add_operator (h : draft.WellFormed)
    (hreader : ∀ reading ∈ reader, draft.graph.IsOperator reading)
    (hcluster : ∀ around ∈ cluster, draft.graph.IsCluster around) :
    (draft.addOperator plan reader cluster).WellFormed where
  ids := by simpa [addOperator] using h.ids_add_node (.operator cluster)
  clusters := by
    intro node hmem around hkind
    simp only [addOperator, nodes_link, graph_remember, nodes_add_node] at hmem
    refine grows_add_operator.is_cluster ?_
    obtain hold | hnew := List.mem_append.mp hmem
    · exact h.clusters node hold around hkind
    · obtain rfl := List.mem_singleton.mp hnew
      exact hcluster around (NodeKind.operator.inj hkind)
  edges := by
    intro edge hmem
    simp only [addOperator, edges_link, graph_remember, edges_add_node] at hmem
    simp only [is_operator_add_operator]
    obtain hold | hnew := List.mem_append.mp hmem
    · exact ⟨.inl (h.edges edge hold).1, .inl (h.edges edge hold).2⟩
    · obtain ⟨reading, hreading, rfl⟩ := Option.map_eq_some_iff.mp (Option.mem_toList.mp hnew)
      exact ⟨.inr rfl, .inl (hreader reading hreading)⟩
  exchanges := by
    intro entry hmem
    rw [is_operator_add_operator]
    simp only [addOperator, exchanges_link, remember] at hmem
    split at hmem
    · obtain rfl | hold := List.mem_cons.mp hmem
      · exact .inr rfl
      · exact .inl (h.exchanges entry hold)
    · exact .inl (h.exchanges entry hmem)

/-- A cluster keeps a draft rooted. -/
theorem Rooted.add_cluster (h : draft.Rooted root) : (draft.addNode plan .cluster).Rooted root where
  operator := by simpa using h.operator
  least := by simpa using h.least
  reaches := by
    intro id hid
    exact (grows_add_node .cluster).reaches (h.reaches id (is_operator_add_cluster.mp hid))

/-- A link keeps a draft rooted. -/
theorem Rooted.link {linked : Nat} (h : draft.Rooted root) :
    (draft.link linked reader).Rooted root where
  operator := by simpa using h.operator
  least := by simpa using h.least
  reaches := by
    intro id hid
    exact grows_link.reaches (h.reaches id (is_operator_link.mp hid))

/-- An operator below a reader keeps a draft rooted. -/
theorem Rooted.add_operator (h : draft.Rooted root) (hwell : draft.WellFormed) {reading : Nat}
    (hreading : draft.graph.IsOperator reading) :
    (draft.addOperator plan (some reading) cluster).Rooted root where
  operator := by simpa using .inl h.operator
  least := by
    intro id hid
    obtain hold | rfl := is_operator_add_operator.mp hid
    · exact h.least id hold
    · exact Nat.le_of_lt (hwell.lt_next h.operator)
  reaches := by
    intro id hid
    obtain hold | rfl := is_operator_add_operator.mp hid
    · exact grows_add_operator.reaches (h.reaches id hold)
    · -- The new operator leads to its reader, which leads to the root.
      have hedge : (draft.addOperator plan (some reading) cluster).graph.Feeds draft.nextId
          reading := by
        simp [Feeds, addOperator]
      exact (grows_add_operator.reaches (h.reaches reading hreading)).head hedge

/-- The first operator is the root. -/
theorem Bare.add_operator (h : draft.Bare) :
    (draft.addOperator plan none cluster).Rooted draft.nextId where
  operator := by simp
  least := by
    intro id hid
    obtain hold | rfl := is_operator_add_operator.mp hid
    · exact absurd hold (h.operators id)
    · exact Nat.le_refl _
  reaches := by
    intro id hid
    obtain hold | rfl := is_operator_add_operator.mp hid
    · exact absurd hold (h.operators id)
    · exact .refl

/-- A cluster leaves a draft bare. -/
theorem Bare.add_cluster (h : draft.Bare) : (draft.addNode plan .cluster).Bare where
  operators := by simpa using h.operators
  exchanges := by simpa using h.exchanges

/-- Nothing is found again in a bare draft. -/
theorem Bare.exchange_eq_none (h : draft.Bare) : draft.exchange? plan = none := by
  simp [exchange?, h.exchanges]

end Draft

open Draft

/-! ## Drawing -/

/-- What drawing below a reader and in a cluster does to a well-formed draft: it stays well-formed
and grows, and a root stays the root of what is drawn below a reader. -/
def GrowsWell (reader cluster : Option Nat) (draft later : Draft) : Prop :=
  draft.WellFormed → (∀ reading ∈ reader, draft.graph.IsOperator reading) →
    (∀ around ∈ cluster, draft.graph.IsCluster around) →
    later.WellFormed ∧ draft.Grows later ∧
      ∀ root, reader ≠ none → draft.Rooted root → later.Rooted root

/-- Every step of a drawing grows well. -/
theorem grows_well_kept : KeptByDrawing
    (fun reader cluster _ draft later => GrowsWell reader cluster draft later)
    (fun reader cluster _ draft later => GrowsWell reader cluster draft later) where
  done := fun hwell _ _ => ⟨hwell, ⟨fun _ h => h, fun _ h => h⟩, fun _ _ h => h⟩
  next := by
    intro reader cluster plan rest draft middle last hfirst hrest hwell hreader hcluster
    obtain ⟨hmiddle, hgrows, hroot⟩ := hfirst hwell hreader hcluster
    obtain ⟨hlast, hgrows', hroot'⟩ := hrest hmiddle
      (fun reading hmem => hgrows.is_operator (hreader reading hmem))
      (fun around hmem => hgrows.is_cluster (hcluster around hmem))
    exact ⟨hlast, hgrows.trans hgrows', fun root hsome h => hroot' root hsome (hroot root hsome h)⟩
  fuse := by
    intro reader cluster plan first rest draft last _ _ hfirst hwell hreader _
    obtain ⟨hlast, hgrows, hroot⟩ := hfirst hwell.add_cluster (by simpa using hreader)
      (by simpa using is_cluster_next)
    exact ⟨hlast, (grows_add_node .cluster).trans hgrows,
      fun root hsome h => hroot root hsome h.add_cluster⟩
  pass := by
    intro reader cluster plan first rest draft last _ _ hfirst hwell hreader _
    exact hfirst hwell hreader (by simp)
  reuse := by
    intro reader cluster plan first rest draft id _ _ hfound hwell hreader _
    have hid := hwell.exchanges _ (mem_of_exchange hfound)
    exact ⟨hwell.link hid hreader, grows_link, fun root _ h => h.link⟩
  operator := by
    intro reader cluster plan draft last _ hinputs hwell hreader hcluster
    obtain ⟨hlast, hgrows, hroot⟩ := hinputs (hwell.add_operator hreader hcluster) (by simp)
      (fun around hmem => grows_add_operator.is_cluster (hcluster around hmem))
    refine ⟨hlast, grows_add_operator.trans hgrows, fun root hsome h => ?_⟩
    obtain ⟨reading, rfl⟩ := Option.ne_none_iff_exists'.mp hsome
    exact hroot root (by simp) (h.add_operator hwell (hreader reading rfl))

/-- Drawing a plan into a bare draft without a reader gives the draft a root. -/
theorem draw_rooted (plan : PlanTree) {draft : Draft} (hwell : draft.WellFormed)
    (hbare : draft.Bare) : ∃ root, (draw none none plan draft).Rooted root := by
  -- Wrappers hand on that there is no reader; the first operator is the reader of all others.
  have hkept : KeptByDrawing
      (fun reader cluster _ draft later => GrowsWell reader cluster draft later ∧
        (draft.WellFormed → draft.Bare → reader = none →
          (∀ around ∈ cluster, draft.graph.IsCluster around) → ∃ root, later.Rooted root))
      (fun reader cluster _ draft later => GrowsWell reader cluster draft later) :=
    { done := grows_well_kept.done
      next := by
        intro reader cluster plan rest draft middle last hfirst hrest
        have hnext := @grows_well_kept.next reader cluster plan rest draft middle last
        exact hnext hfirst.1 hrest
      fuse := by
        rintro reader cluster plan first rest draft last hchildren hname ⟨hgrows, hroot⟩
        refine ⟨grows_well_kept.fuse hchildren hname hgrows, fun hwell hbare hnone _ => ?_⟩
        exact hroot hwell.add_cluster hbare.add_cluster hnone (by simpa using is_cluster_next)
      pass := by
        rintro reader cluster plan first rest draft last hchildren hname ⟨hgrows, hroot⟩
        refine ⟨grows_well_kept.pass hchildren hname hgrows, fun hwell hbare hnone _ => ?_⟩
        exact hroot hwell hbare hnone (by simp)
      reuse := by
        intro reader cluster plan first rest draft id hchildren hname hfound
        refine ⟨grows_well_kept.reuse hchildren hname hfound, fun _ hbare _ _ => ?_⟩
        rw [hbare.exchange_eq_none] at hfound
        cases hfound
      operator := by
        intro reader cluster plan draft last hname hinputs
        refine ⟨grows_well_kept.operator hname hinputs, fun hwell hbare hnone hcluster => ?_⟩
        subst hnone
        obtain ⟨-, -, hroot⟩ := hinputs (hwell.add_operator (by simp) hcluster) (by simp)
          (fun around hmem => grows_add_operator.is_cluster (hcluster around hmem))
        exact ⟨_, hroot draft.nextId (by simp) hbare.add_operator⟩ }
  exact (hkept.draw none none plan draft).2 hwell hbare rfl (by simp)

/-! ## Nodes in reporting order -/

/-- A member of a cluster is a node of that kind. -/
theorem mem_members {graph : PlanGraph} {id : Nat} {node : GraphNode} :
    node ∈ graph.members id ↔ node ∈ graph.nodes ∧ node.kind = .operator (some id) := by
  simp [members, GraphNode.isMemberOf]

/-- Outside of all clusters are the nodes that are no members. -/
theorem mem_top_level {graph : PlanGraph} {node : GraphNode} :
    node ∈ graph.topLevel ↔ node ∈ graph.nodes ∧ ∀ id, node.kind ≠ .operator (some id) := by
  rw [topLevel, List.mem_filter, GraphNode.isTopLevel]
  cases node.kind with
  | cluster => simp
  | operator cluster => cases cluster <;> simp

/-- What is reported for a node outside of all clusters: its members, if it is a cluster, and the
node itself. -/
theorem mem_reported {graph : PlanGraph} {top node : GraphNode}
    (hmem : node ∈ if top.isCluster then graph.members top.id ++ [top] else [top]) :
    node = top ∨ node ∈ graph.members top.id := by
  split at hmem
  · simpa [or_comm] using hmem
  · exact .inl (List.mem_singleton.mp hmem)

/-- Clusters have the kind of clusters. -/
theorem is_cluster_iff {node : GraphNode} : node.isCluster = true ↔ node.kind = .cluster := by
  simp [GraphNode.isCluster]

/-- A cluster stands outside of all clusters. -/
theorem cluster_top_level {graph : PlanGraph} {node : GraphNode} (hnode : node ∈ graph.nodes)
    (hcluster : node.isCluster = true) :
    node ∈ graph.topLevel ∧ ∀ cluster ∈ graph.topLevel, node ∉ graph.members cluster.id := by
  rw [is_cluster_iff] at hcluster
  exact ⟨mem_top_level.mpr ⟨hnode, by simp [hcluster]⟩, by simp [mem_members, hcluster]⟩

namespace Draft.WellFormed

variable {draft : Draft} {node other : GraphNode}

/-- Ids are not given twice. -/
theorem ids_nodup (h : draft.WellFormed) : (draft.graph.nodes.map GraphNode.id).Nodup :=
  h.ids ▸ List.nodup_range

/-- Nodes are told apart by their ids. -/
theorem eq_of_id_eq (h : draft.WellFormed) (hnode : node ∈ draft.graph.nodes)
    (hother : other ∈ draft.graph.nodes) (hid : node.id = other.id) : node = other :=
  List.inj_on_of_nodup_map h.ids_nodup hnode hother hid

/-- The cluster that a member belongs to is drawn outside of all clusters. -/
theorem cluster_of_member (h : draft.WellFormed) {id : Nat}
    (hmember : node ∈ draft.graph.members id) :
    ∃ cluster ∈ draft.graph.topLevel, cluster.isCluster = true ∧ cluster.id = id := by
  obtain ⟨hnode, hkind⟩ := mem_members.mp hmember
  obtain ⟨cluster, hmem, hid, hcluster⟩ := h.clusters node hnode id hkind
  refine ⟨cluster, mem_top_level.mpr ⟨hmem, fun around he => ?_⟩, hcluster, hid⟩
  rw [is_cluster_iff, he] at hcluster
  cases hcluster

/-- Nothing is reported with two nodes. -/
theorem all_nodes_nodup (h : draft.WellFormed) : draft.graph.allNodes.Nodup := by
  have hnodup : draft.graph.nodes.Nodup := h.ids_nodup.of_map
  refine List.nodup_flatMap.mpr ⟨fun top hmem => ?_, (hnodup.filter _).imp_of_mem ?_⟩
  · split
    · refine List.nodup_append.mpr ⟨hnodup.filter _, List.nodup_singleton _, ?_⟩
      rintro member hin _ hself rfl
      obtain rfl := List.mem_singleton.mp hself
      exact (mem_top_level.mp hmem).2 _ (mem_members.mp hin).2
    · exact List.nodup_singleton _
  · -- A member has the kind of its cluster, and no node of the top level is a member.
    intro top bottom htop hbottom hne node hin hin'
    obtain rfl | hin := mem_reported hin
    · obtain rfl | hin' := mem_reported hin'
      · exact hne rfl
      · exact (mem_top_level.mp htop).2 _ (mem_members.mp hin').2
    · obtain rfl | hin' := mem_reported hin'
      · exact (mem_top_level.mp hbottom).2 _ (mem_members.mp hin).2
      · have hkind := (mem_members.mp hin).2.symm.trans (mem_members.mp hin').2
        have hid := Option.some.inj (NodeKind.operator.inj hkind)
        exact hne (h.eq_of_id_eq (mem_top_level.mp htop).1 (mem_top_level.mp hbottom).1 hid)

/-- Reporting shows the nodes of the graph. -/
theorem mem_all_nodes (h : draft.WellFormed) :
    node ∈ draft.graph.allNodes ↔ node ∈ draft.graph.nodes := by
  rw [allNodes, List.mem_flatMap]
  constructor
  · rintro ⟨top, hmem, hin⟩
    obtain rfl | hin := mem_reported hin
    · exact (mem_top_level.mp hmem).1
    · exact (mem_members.mp hin).1
  · intro hnode
    by_cases htop : node ∈ draft.graph.topLevel
    · exact ⟨node, htop, by split <;> simp⟩
    · -- A node that is not of the top level is reported with its cluster.
      obtain ⟨id, hkind⟩ : ∃ id, node.kind = .operator (some id) := by
        simpa [mem_top_level, hnode] using htop
      have hin : node ∈ draft.graph.members id := mem_members.mpr ⟨hnode, hkind⟩
      obtain ⟨cluster, hmem, hcluster, rfl⟩ := h.cluster_of_member hin
      exact ⟨cluster, hmem, by simp [hcluster, hin]⟩

/-- Reporting leaves no node out, and reports none twice. -/
theorem all_nodes_perm (h : draft.WellFormed) : draft.graph.allNodes.Perm draft.graph.nodes :=
  (List.perm_ext_iff_of_nodup h.all_nodes_nodup h.ids_nodup.of_map).mpr fun _ => h.mem_all_nodes

/-- A node stands outside of all clusters, or in exactly one. -/
theorem placed (h : draft.WellFormed) (hnode : node ∈ draft.graph.nodes) :
    node ∈ draft.graph.topLevel ∧
        (∀ cluster ∈ draft.graph.topLevel, node ∉ draft.graph.members cluster.id) ∨
      node ∉ draft.graph.topLevel ∧
        ∃! cluster, cluster ∈ draft.graph.topLevel ∧ cluster.isCluster = true ∧
          node ∈ draft.graph.members cluster.id := by
  by_cases htop : node ∈ draft.graph.topLevel
  · exact .inl ⟨htop, fun _ _ hin => (mem_top_level.mp htop).2 _ (mem_members.mp hin).2⟩
  · refine .inr ⟨htop, ?_⟩
    obtain ⟨id, hkind⟩ : ∃ id, node.kind = .operator (some id) := by
      simpa [mem_top_level, hnode] using htop
    have hin : node ∈ draft.graph.members id := mem_members.mpr ⟨hnode, hkind⟩
    obtain ⟨cluster, hmem, hcluster, rfl⟩ := h.cluster_of_member hin
    refine ⟨cluster, ⟨hmem, hcluster, hin⟩, ?_⟩
    rintro other ⟨hother, -, hin'⟩
    have hid := Option.some.inj (NodeKind.operator.inj (hkind.symm.trans (mem_members.mp hin').2))
    exact h.eq_of_id_eq (mem_top_level.mp hother).1 (mem_top_level.mp hmem).1 hid.symm

end Draft.WellFormed

/-! ## Graphs of plans -/

/-- What drawing makes of a plan: a graph with one root. -/
structure RootedIn (graph : PlanGraph) (plan : PlanTree) : Prop where
  /-- The nodes are numbered from zero, each once. -/
  numbered : (graph.allNodes.map GraphNode.id).Perm (List.range graph.allNodes.length)
  /-- By increasing ids, the nodes are operators of the plan in the order of a walk that visits
  each before its inputs. -/
  preorder : graph.allNodes.Perm graph.nodes ∧
    graph.nodes.map GraphNode.id = List.range graph.nodes.length ∧
    ∃ drawn : List PlanTree, drawn.Sublist (plan.operators false) ∧
      graph.nodes.map GraphNode.face = drawn.map PlanTree.face
  /-- An operator stands outside of all clusters or in exactly one. -/
  placed : ∀ node ∈ graph.allNodes, node.isCluster = false →
    node ∈ graph.topLevel ∧ (∀ cluster ∈ graph.topLevel, node ∉ graph.members cluster.id) ∨
      node ∉ graph.topLevel ∧
        ∃! cluster, cluster ∈ graph.topLevel ∧ cluster.isCluster = true ∧
          node ∈ graph.members cluster.id
  /-- A cluster stands outside of all clusters. -/
  flat : ∀ node ∈ graph.allNodes, node.isCluster = true →
    node ∈ graph.topLevel ∧ ∀ cluster ∈ graph.topLevel, node ∉ graph.members cluster.id
  /-- Edges join operators. -/
  joined : ∀ edge ∈ graph.edges,
    (∃ input ∈ graph.allNodes, input.id = edge.1 ∧ input.isCluster = false) ∧
      ∃ reader ∈ graph.allNodes, reader.id = edge.2 ∧ reader.isCluster = false
  /-- Of the operators, one is read by none. It is the first one, and all lead to it. -/
  root : ∃ root ∈ graph.allNodes, root.isCluster = false ∧
    ∀ node ∈ graph.allNodes, node.isCluster = false →
      root.id ≤ node.id ∧ Relation.ReflTransGen graph.Feeds node.id root.id ∧
        ((∀ reader, ¬ graph.Feeds node.id reader) ↔ node = root)

/-- The empty draft is well-formed. -/
theorem well_formed_empty : Draft.empty.WellFormed where
  ids := rfl
  clusters := by simp [Draft.empty]
  edges := by simp [Draft.empty]
  exchanges := by simp [Draft.empty]

/-- Drawing a plan into the empty draft makes a well-formed one. -/
theorem well_formed_of_plan (plan : PlanTree) : (draw none none plan Draft.empty).WellFormed := by
  obtain ⟨hwell, -⟩ := grows_well_kept.draw none none plan Draft.empty well_formed_empty (by simp)
    (by simp)
  exact hwell

/-- The empty draft is bare. -/
theorem bare_empty : Draft.empty.Bare where
  operators := by simp [Draft.empty, IsOperator]
  exchanges := rfl

/-- No way in the graph of a plan leads back to where it starts. -/
theorem not_feeds_back (plan : PlanTree) (id : Nat) :
    ¬ Relation.TransGen (ofPlan plan).Feeds id id := by
  have hnone : Outweighed [] none plan.size := by
    intro id hid
    cases hid
  obtain ⟨weights, hweights⟩ := draw_weighted none none plan weighted_empty hnone
  intro hback
  obtain ⟨m, n, hm, hn, hlt⟩ := hweights.weights_lt hback
  obtain rfl := Option.some.inj (hm.symm.trans hn)
  exact Nat.lt_irrefl m hlt

/-- Where all operators lead to a root and no way leads back, the root is the one operator that
feeds none. -/
theorem feeds_none_iff {graph : PlanGraph} {root id : Nat}
    (hback : ∀ id, ¬ Relation.TransGen graph.Feeds id id)
    (hedges : ∀ edge ∈ graph.edges, graph.IsOperator edge.2)
    (hreaches : ∀ id, graph.IsOperator id → Relation.ReflTransGen graph.Feeds id root)
    (hid : graph.IsOperator id) : (∀ reader, ¬ graph.Feeds id reader) ↔ id = root := by
  constructor
  · intro hnone
    obtain rfl | ⟨reader, hfeeds, -⟩ := (hreaches id hid).cases_head
    · rfl
    · exact absurd hfeeds (hnone reader)
  · rintro rfl reader hfeeds
    exact hback id (.head' hfeeds (hreaches reader (hedges _ hfeeds)))

/-- The graph of every plan is rooted. -/
theorem of_plan_rooted (plan : PlanTree) : (ofPlan plan).RootedIn plan := by
  have hwell := well_formed_of_plan plan
  obtain ⟨least, hroot⟩ := draw_rooted plan well_formed_empty bare_empty
  obtain ⟨added, hadded, hfaces⟩ := nodes_draw none none plan Draft.empty
  obtain ⟨drawn, hdrawn, hmap⟩ := List.sublist_map_iff.mp hfaces
  have hperm := hwell.all_nodes_perm
  have hshown : ∀ {node : GraphNode}, node ∈ (ofPlan plan).allNodes ↔ node ∈ (ofPlan plan).nodes :=
    hwell.mem_all_nodes
  have hoperator : ∀ {id : Nat}, (ofPlan plan).IsOperator id →
      ∃ node ∈ (ofPlan plan).allNodes, node.id = id ∧ node.isCluster = false := by
    rintro id ⟨node, hmem, hnode⟩
    exact ⟨node, hshown.mpr hmem, hnode⟩
  obtain ⟨root, hmem, rfl, hplain⟩ := hroot.operator
  exact
    { numbered := by
        have hids := hperm.map GraphNode.id
        rwa [hwell.ids, ← hperm.length_eq] at hids
      preorder := ⟨hperm, hwell.ids, drawn, hdrawn, by
        rw [ofPlan, hadded]
        exact hmap⟩
      placed := fun node hnode _ => hwell.placed (hshown.mp hnode)
      flat := fun node hnode hcluster => cluster_top_level (hshown.mp hnode) hcluster
      joined := fun edge hedge =>
        ⟨hoperator (hwell.edges edge hedge).1, hoperator (hwell.edges edge hedge).2⟩
      root := by
        refine ⟨root, hshown.mpr hmem, hplain, fun node hnode hnot => ?_⟩
        rw [hshown] at hnode
        have hid : (ofPlan plan).IsOperator node.id := ⟨node, hnode, rfl, hnot⟩
        refine ⟨hroot.least _ hid, hroot.reaches _ hid, ?_⟩
        rw [feeds_none_iff (not_feeds_back plan) (fun edge hedge => (hwell.edges edge hedge).2)
          hroot.reaches hid]
        exact ⟨hwell.eq_of_id_eq hnode hmem, fun heq => congrArg GraphNode.id heq⟩ }

end SparkLog.PlanGraph
