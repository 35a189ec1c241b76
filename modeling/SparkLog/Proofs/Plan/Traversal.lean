import SparkLog.Plan.Graph

/-!
# Going through a plan

`PlanTree.operators` lists the operators that a plan shows if no exchange is found again, and
`KeptByDrawing` is the induction over the drawing of a plan: what each kind of step keeps, the whole
drawing keeps. Its first use is `nodes_draw`: a drawing adds nodes behind those before, and shows
operators in the order in which a plan lists them, each before its inputs.
-/

namespace SparkLog

namespace PlanTree

open PlanGraph (Drawing)

mutual

/-- The operators that a plan shows, each before its inputs. Wrappers that pass rows on are left
out, and a cluster goes on with what it fuses. If `follow` is set, a reused exchange is left out
like a wrapper; otherwise it is an operator like any other. -/
def operators (follow : Bool) : PlanTree → List PlanTree
  | ⟨name, description, children, metadata, metrics, extras⟩ =>
    let plan : PlanTree := ⟨name, description, children, metadata, metrics, extras⟩
    match children with
    | [] => [plan]
    | first :: rest =>
      match Drawing.ofName name with
      | .cluster => plan :: operators follow first
      | .passed | .stage => operators follow first
      | .reuse =>
        if follow then operators follow first
        else plan :: (operators follow first ++ operatorsOfAll follow rest)
      | .node => plan :: (operators follow first ++ operatorsOfAll follow rest)

/-- The operators that plans show, one plan after the other. -/
def operatorsOfAll (follow : Bool) : List PlanTree → List PlanTree
  | [] => []
  | plan :: rest => operators follow plan ++ operatorsOfAll follow rest

end

variable {plan first : PlanTree} {rest : List PlanTree} {follow : Bool}

/-- A cluster is shown before what it fuses. -/
theorem operators_cluster (hchildren : plan.children = first :: rest)
    (hname : Drawing.ofName plan.name = .cluster) :
    plan.operators follow = plan :: first.operators follow := by
  cases plan
  subst hchildren
  rw [operators, hname]

/-- A wrapper shows what its first input shows. -/
theorem operators_wrapper (hchildren : plan.children = first :: rest)
    (hname : Drawing.ofName plan.name = .passed ∨ Drawing.ofName plan.name = .stage) :
    plan.operators follow = first.operators follow := by
  cases plan
  subst hchildren
  obtain hname | hname := hname <;> rw [operators, hname]

/-- A reused exchange that is followed shows what its first input shows. -/
theorem operators_followed (hchildren : plan.children = first :: rest)
    (hname : Drawing.ofName plan.name = .reuse) :
    plan.operators true = first.operators true := by
  cases plan
  subst hchildren
  rw [operators, hname]
  rfl

/-- Any other operator is shown before its inputs. -/
theorem operators_operator
    (h : plan.children = [] ∨ Drawing.ofName plan.name = .node ∨
      Drawing.ofName plan.name = .reuse ∧ follow = false) :
    plan.operators follow = plan :: operatorsOfAll follow plan.children := by
  obtain ⟨name, description, children, metadata, metrics, extras⟩ := plan
  cases children with
  | nil => rw [operators, operatorsOfAll]
  | cons first rest =>
      obtain h | hname | ⟨hname, rfl⟩ := h
      · cases h
      · rw [operators, hname, operatorsOfAll]
      · rw [operators, hname, operatorsOfAll]
        rfl

/-- An operator with a first input is shown before what the inputs show. -/
theorem operators_node (hchildren : plan.children = first :: rest)
    (hname : Drawing.ofName plan.name = .node) :
    plan.operators follow = plan :: (first.operators follow ++ operatorsOfAll follow rest) := by
  rw [operators_operator (.inr (.inl hname)), hchildren, operatorsOfAll]

/-- Plans show what each of them shows. -/
theorem mem_operators_of_all {operator : PlanTree} {plans : List PlanTree} :
    operator ∈ operatorsOfAll follow plans ↔ ∃ plan ∈ plans, operator ∈ plan.operators follow := by
  induction plans with
  | nil => simp [operatorsOfAll]
  | cons plan rest ih => simp [operatorsOfAll, ih]

/-- What a plan shows is the plan itself, or shown by an input. -/
theorem eq_or_mem_of_operators {operator : PlanTree} (h : operator ∈ plan.operators follow) :
    operator = plan ∨ ∃ input ∈ plan.children, operator ∈ input.operators follow := by
  by_cases hoperator : plan.children = [] ∨ Drawing.ofName plan.name = .node ∨
      Drawing.ofName plan.name = .reuse ∧ follow = false
  · rw [operators_operator hoperator] at h
    exact (List.mem_cons.mp h).imp_right mem_operators_of_all.mp
  · cases hchildren : plan.children with
    | nil => exact absurd (.inl hchildren) hoperator
    | cons first rest =>
        have hfirst : operator = plan ∨ operator ∈ first.operators follow := by
          cases hname : Drawing.ofName plan.name with
          | cluster =>
              rw [operators_cluster hchildren hname] at h
              exact List.mem_cons.mp h
          | passed => exact .inr (operators_wrapper hchildren (.inl hname) ▸ h)
          | stage => exact .inr (operators_wrapper hchildren (.inr hname) ▸ h)
          | reuse =>
              cases follow with
              | true => exact .inr (operators_followed hchildren hname ▸ h)
              | false => exact absurd (.inr (.inr ⟨hname, rfl⟩)) hoperator
          | node => exact absurd (.inr (.inl hname)) hoperator
        exact hfirst.imp_right fun hmem => ⟨first, List.mem_cons_self, hmem⟩

/-- What can be seen of an operator in a graph: its name, its description and its metrics. -/
def face (plan : PlanTree) : String × String × List PlanMetric :=
  (plan.name, plan.description, plan.metrics)

end PlanTree

/-- What can be seen of a node: its name, its description and its metrics. -/
def GraphNode.face (node : GraphNode) : String × String × List PlanMetric :=
  (node.name, node.description, node.metrics)

namespace PlanGraph

namespace Draft

variable (draft : Draft) (plan : PlanTree) (kind : NodeKind) (id : Nat) (reader : Option Nat)

/-- The node that is added for a plan. -/
def nodeOf : GraphNode :=
  { id := draft.nextId, name := plan.name, description := plan.description
    metrics := plan.metrics, kind }

@[simp]
theorem nodes_add_node :
    (draft.addNode plan kind).graph.nodes = draft.graph.nodes ++ [draft.nodeOf plan kind] := rfl

@[simp]
theorem edges_add_node : (draft.addNode plan kind).graph.edges = draft.graph.edges := rfl

@[simp]
theorem exchanges_add_node : (draft.addNode plan kind).exchanges = draft.exchanges := rfl

@[simp]
theorem graph_remember : (draft.remember plan id).graph = draft.graph := by
  unfold remember
  split <;> rfl

@[simp]
theorem nodes_link : (draft.link id reader).graph.nodes = draft.graph.nodes := by
  cases reader <;> rfl

@[simp]
theorem edges_link :
    (draft.link id reader).graph.edges =
      draft.graph.edges ++ (reader.map fun reader => (id, reader)).toList := by
  cases reader <;> simp [link]

@[simp]
theorem exchanges_link : (draft.link id reader).exchanges = draft.exchanges := by
  cases reader <;> rfl

/-- The draft with a node for an operator, which is remembered and linked to its reader. -/
def addOperator (cluster : Option Nat) : Draft :=
  ((draft.addNode plan (.operator cluster)).remember plan draft.nextId).link draft.nextId reader

/-- An exchange is found only if it was remembered under the signature of the plan. -/
theorem mem_of_exchange {draft : Draft} {plan : PlanTree} {id : Nat}
    (hfound : draft.exchange? plan = some id) : (plan.signature, id) ∈ draft.exchanges := by
  obtain ⟨before, behind, hexchanges, -⟩ := List.lookup_eq_some_iff.mp hfound
  rw [hexchanges]
  simp

end Draft

open Draft

/-- Statements about the drafts before and after a plan, or a list of plans, is drawn below a reader
and in a cluster, which hold of each kind of step if they hold of the steps inside it. -/
structure KeptByDrawing (one : Option Nat → Option Nat → PlanTree → Draft → Draft → Prop)
    (all : Option Nat → Option Nat → List PlanTree → Draft → Draft → Prop) : Prop where
  /-- There is nothing to draw. -/
  done : ∀ {reader cluster draft}, all reader cluster [] draft draft
  /-- A plan is drawn before the others. -/
  next : ∀ {reader cluster plan rest draft middle last}, one reader cluster plan draft middle →
    all reader cluster rest middle last → all reader cluster (plan :: rest) draft last
  /-- A cluster is drawn around its first input. -/
  fuse : ∀ {reader cluster plan first rest draft last}, plan.children = first :: rest →
    Drawing.ofName plan.name = .cluster →
    one reader (some draft.nextId) first (draft.addNode plan .cluster) last →
    one reader cluster plan draft last
  /-- A wrapper is drawn as its first input, outside of all clusters. -/
  pass : ∀ {reader cluster plan first rest draft last}, plan.children = first :: rest →
    Drawing.ofName plan.name = .passed ∨ Drawing.ofName plan.name = .stage →
    one reader none first draft last → one reader cluster plan draft last
  /-- An exchange is found again and linked to another reader. -/
  reuse : ∀ {reader cluster plan first rest draft id}, plan.children = first :: rest →
    Drawing.ofName plan.name = .stage ∨ Drawing.ofName plan.name = .reuse →
    draft.exchange? first = some id → one reader cluster plan draft (draft.link id reader)
  /-- An operator is drawn, and it is the reader of its inputs. -/
  operator : ∀ {reader cluster plan draft last},
    plan.children = [] ∨ Drawing.ofName plan.name = .node ∨ Drawing.ofName plan.name = .reuse →
    all (some draft.nextId) cluster plan.children (draft.addOperator plan reader cluster) last →
    one reader cluster plan draft last

namespace KeptByDrawing

variable {one : Option Nat → Option Nat → PlanTree → Draft → Draft → Prop}
  {all : Option Nat → Option Nat → List PlanTree → Draft → Draft → Prop}

mutual

/-- What every step keeps, drawing a plan keeps. -/
theorem draw (h : KeptByDrawing one all) (reader cluster : Option Nat) :
    ∀ (plan : PlanTree) (draft : Draft),
      one reader cluster plan draft (PlanGraph.draw reader cluster plan draft)
  | ⟨name, description, [], metadata, metrics, extras⟩, draft => by
      have hleaf : one reader cluster ⟨name, description, [], metadata, metrics, extras⟩ draft _ :=
        h.operator (.inl rfl) h.done
      rw [PlanGraph.draw]
      exact hleaf
  | ⟨name, description, first :: rest, metadata, metrics, extras⟩, draft => by
      have hinputs := h.draw_all (some draft.nextId) cluster (first :: rest)
        (draft.addOperator ⟨name, description, first :: rest, metadata, metrics, extras⟩ reader
          cluster)
      rw [drawAll] at hinputs
      rw [PlanGraph.draw]
      cases hname : Drawing.ofName name with
      | cluster => exact h.fuse rfl hname (h.draw reader _ first _)
      | passed => exact h.pass rfl (.inl hname) (h.draw reader none first draft)
      | stage =>
          cases hfound : draft.exchange? first with
          | none => exact h.pass rfl (.inr hname) (h.draw reader none first draft)
          | some exchange => exact h.reuse rfl (.inl hname) hfound
      | reuse =>
          cases hfound : draft.exchange? first with
          | none => exact h.operator (.inr (.inr hname)) hinputs
          | some exchange => exact h.reuse rfl (.inr hname) hfound
      | node => exact h.operator (.inr (.inl hname)) hinputs

/-- What every step keeps, drawing plans keeps. -/
theorem draw_all (h : KeptByDrawing one all) (reader cluster : Option Nat) :
    ∀ (plans : List PlanTree) (draft : Draft),
      all reader cluster plans draft (drawAll reader cluster plans draft)
  | [], draft => by
      rw [drawAll]
      exact h.done
  | plan :: rest, draft => by
      rw [drawAll]
      exact h.next (h.draw reader cluster plan draft) (h.draw_all reader cluster rest _)

end

end KeptByDrawing

/-- A drawing adds nodes behind those before. What they show is shown by operators of the plan, in
their order. -/
theorem nodes_draw (reader cluster : Option Nat) (plan : PlanTree) (draft : Draft) :
    ∃ added, (draw reader cluster plan draft).graph.nodes = draft.graph.nodes ++ added ∧
      (added.map GraphNode.face).Sublist ((plan.operators false).map PlanTree.face) := by
  suffices hkept : KeptByDrawing
      (fun _ _ plan draft last => ∃ added, last.graph.nodes = draft.graph.nodes ++ added ∧
        (added.map GraphNode.face).Sublist ((plan.operators false).map PlanTree.face))
      (fun _ _ plans draft last => ∃ added, last.graph.nodes = draft.graph.nodes ++ added ∧
        (added.map GraphNode.face).Sublist
          ((PlanTree.operatorsOfAll false plans).map PlanTree.face)) from
    hkept.draw reader cluster plan draft
  refine { done := ⟨[], by simp⟩, next := ?_, fuse := ?_, pass := ?_, reuse := ?_, operator := ?_ }
  · rintro reader cluster plan rest draft middle last ⟨first, hfirst, hfaces⟩
      ⟨others, hothers, hrest⟩
    refine ⟨first ++ others, by rw [hothers, hfirst, List.append_assoc], ?_⟩
    rw [PlanTree.operatorsOfAll, List.map_append, List.map_append]
    exact hfaces.append hrest
  · rintro reader cluster plan first rest draft last hchildren hname ⟨added, hadded, hfaces⟩
    refine ⟨draft.nodeOf plan .cluster :: added, by simp [hadded], ?_⟩
    rw [PlanTree.operators_cluster hchildren hname]
    exact hfaces.cons_cons _
  · rintro reader cluster plan first rest draft last hchildren hname ⟨added, hadded, hfaces⟩
    exact ⟨added, hadded, by rwa [PlanTree.operators_wrapper hchildren hname]⟩
  · intro reader cluster plan first rest draft id _ _ _
    exact ⟨[], by simp⟩
  · rintro reader cluster plan draft last hname ⟨added, hadded, hfaces⟩
    refine ⟨draft.nodeOf plan (.operator cluster) :: added, by simp [hadded, addOperator], ?_⟩
    rw [PlanTree.operators_operator (by simpa using hname)]
    exact hfaces.cons_cons _

end PlanGraph

end SparkLog
