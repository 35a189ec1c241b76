import Mathlib.Logic.Relation
import SparkLog.Plan.Graph
import SparkLog.Proofs.Plan.Signature

/-!
# Plan graphs have no cycles

Ids are no measure of a plan graph: an exchange that is used again may have a lower or a higher id
than its reader. The measure is the size of the plan that a node was drawn for. Every edge leads to
a larger plan, because an exchange is found by its signature, and plans with the same signature
have the same size. `draw_weighted` keeps this while a plan is drawn, and `of_plan_acyclic`
concludes.
-/

namespace SparkLog.PlanGraph

namespace Draft

/-- The nodes of a draft have weights that grow along edges, and a remembered exchange weighs as
much as the plans that it stands for. -/
structure Weighted (draft : Draft) (weights : List Nat) : Prop where
  length_eq : weights.length = draft.graph.nodes.length
  edges_lt : ∀ edge ∈ draft.graph.edges,
    ∃ m n, weights[edge.1]? = some m ∧ weights[edge.2]? = some n ∧ m < n
  exchanges_eq : ∀ entry ∈ draft.exchanges,
    ∃ plan : PlanTree, entry.1 = plan.signature ∧ weights[entry.2]? = some plan.size

/-- The reader, if there is one, weighs more than `size`. -/
def Outweighed (weights : List Nat) (reader : Option Nat) (size : Nat) : Prop :=
  ∀ id, reader = some id → ∃ n, weights[id]? = some n ∧ size < n

variable {draft : Draft} {weights : List Nat} {reader : Option Nat} {plan : PlanTree}

/-- Nodes keep their weights when others are added. -/
theorem weight_append {id n : Nat} (h : weights[id]? = some n) (added : List Nat) :
    (weights ++ added)[id]? = some n := by
  obtain ⟨hbound, -⟩ := List.getElem?_eq_some_iff.mp h
  rw [List.getElem?_append_left hbound, h]

/-- A reader that outweighs a size outweighs smaller ones, also after nodes are added. -/
theorem Outweighed.mono {size smaller : Nat} (h : Outweighed weights reader size)
    (hle : smaller ≤ size) (added : List Nat) : Outweighed (weights ++ added) reader smaller := by
  intro id hid
  obtain ⟨n, hn, hlt⟩ := h id hid
  exact ⟨n, weight_append hn added, Nat.lt_of_le_of_lt hle hlt⟩

/-- A reader that outweighs a plan outweighs its inputs. -/
theorem Outweighed.child (h : Outweighed weights reader plan.size) {child : PlanTree}
    (hchild : child ∈ plan.children) : Outweighed weights reader child.size := by
  have hle := Nat.le_of_lt (PlanTree.size_lt_of_mem_children hchild)
  simpa using h.mono hle []

/-- The empty draft is weighted. -/
theorem weighted_empty : Draft.empty.Weighted [] where
  length_eq := rfl
  edges_lt := by simp [Draft.empty]
  exchanges_eq := by simp [Draft.empty]

/-- A new node weighs as much as its plan. -/
theorem Weighted.add_node (h : draft.Weighted weights) (plan : PlanTree) (kind : NodeKind) :
    (draft.addNode plan kind).Weighted (weights ++ [plan.size]) := by
  refine ⟨by simp [addNode, h.length_eq], fun edge hmem => ?_, fun entry hmem => ?_⟩
  · obtain ⟨m, n, hm, hn, hlt⟩ := h.edges_lt edge hmem
    exact ⟨m, n, weight_append hm _, weight_append hn _, hlt⟩
  · obtain ⟨exchange, hsignature, hweight⟩ := h.exchanges_eq entry hmem
    exact ⟨exchange, hsignature, weight_append hweight _⟩

/-- The node that is added next has the weight that is added next. -/
theorem Weighted.weight_next (h : draft.Weighted weights) (size : Nat) :
    (weights ++ [size])[draft.nextId]? = some size := by
  rw [nextId, ← h.length_eq]
  simp

/-- A node that weighs as much as its plan can be remembered. -/
theorem Weighted.remember (h : draft.Weighted weights) {id : Nat}
    (hid : weights[id]? = some plan.size) : (draft.remember plan id).Weighted weights := by
  unfold Draft.remember
  split
  · refine ⟨h.length_eq, h.edges_lt, fun entry hmem => ?_⟩
    cases hmem with
    | head => exact ⟨plan, rfl, hid⟩
    | tail _ hmem => exact h.exchanges_eq entry hmem
  · exact h

/-- A node can be linked to a reader that outweighs it. -/
theorem Weighted.link (h : draft.Weighted weights) {id size : Nat}
    (hid : weights[id]? = some size) (hreader : Outweighed weights reader size) :
    (draft.link id reader).Weighted weights := by
  cases reader with
  | none => exact h
  | some reader =>
      obtain ⟨n, hn, hlt⟩ := hreader reader rfl
      refine ⟨h.length_eq, fun edge hmem => ?_, h.exchanges_eq⟩
      obtain hold | hnew := List.mem_append.mp hmem
      · exact h.edges_lt edge hold
      · obtain rfl := List.mem_singleton.mp hnew
        exact ⟨size, n, hid, hn, hlt⟩

/-- An exchange that is found for a plan weighs as much as the plan. -/
theorem Weighted.exchange_weight (h : draft.Weighted weights) {id : Nat}
    (hfound : draft.exchange? plan = some id) : weights[id]? = some plan.size := by
  obtain ⟨before, behind, hexchanges, -⟩ := List.lookup_eq_some_iff.mp hfound
  have hmem : (plan.signature, id) ∈ draft.exchanges := by
    rw [hexchanges]
    simp
  obtain ⟨exchange, hsignature, hweight⟩ := h.exchanges_eq _ hmem
  rw [hweight, PlanTree.size_eq_of_signature_eq hsignature]

/-- The reader of an input is outweighed by no input: the node of the plan weighs more. -/
theorem Weighted.outweighs_child (h : draft.Weighted weights) {child : PlanTree}
    (hchild : child ∈ plan.children) :
    Outweighed (weights ++ [plan.size]) (some draft.nextId) child.size := by
  intro id hid
  obtain rfl := Option.some.inj hid
  exact ⟨plan.size, h.weight_next plan.size, PlanTree.size_lt_of_mem_children hchild⟩

/-- The node of an operator, remembered and linked to its reader, keeps a draft weighted. -/
theorem Weighted.operator (h : draft.Weighted weights) (kind : NodeKind)
    (hreader : Outweighed weights reader plan.size) :
    (((draft.addNode plan kind).remember plan draft.nextId).link draft.nextId reader).Weighted
      (weights ++ [plan.size]) :=
  ((h.add_node plan kind).remember (h.weight_next plan.size)).link (h.weight_next plan.size)
    (hreader.mono (Nat.le_refl _) _)

/-- A node that is found for an input can be linked to a reader that outweighs the input. -/
theorem Weighted.reuse (h : draft.Weighted weights) {id : Nat}
    (hfound : draft.exchange? plan = some id) (hreader : Outweighed weights reader plan.size) :
    (draft.link id reader).Weighted weights :=
  h.link (h.exchange_weight hfound) hreader

/-- Weights grow along every way from inputs to their readers. -/
theorem Weighted.weights_lt (h : draft.Weighted weights) {input reader : Nat}
    (hway : Relation.TransGen (fun input reader => (input, reader) ∈ draft.graph.edges)
      input reader) :
    ∃ m n, weights[input]? = some m ∧ weights[reader]? = some n ∧ m < n := by
  induction hway with
  | single hedge => exact h.edges_lt _ hedge
  | tail _ hedge ih =>
      obtain ⟨m, n, hm, hn, hlt⟩ := ih
      obtain ⟨n', k, hn', hk, hlt'⟩ := h.edges_lt _ hedge
      obtain rfl := Option.some.inj (hn.symm.trans hn')
      exact ⟨m, k, hm, hk, Nat.lt_trans hlt hlt'⟩

end Draft

open Draft

mutual

/-- Drawing a plan below a reader that outweighs it keeps a draft weighted. -/
theorem draw_weighted (reader cluster : Option Nat) :
    ∀ (plan : PlanTree) {draft : Draft} {weights : List Nat}, draft.Weighted weights →
      Outweighed weights reader plan.size →
      ∃ added, (draw reader cluster plan draft).Weighted (weights ++ added)
  | ⟨name, description, [], metadata, metrics, extras⟩, draft, weights, h, hreader =>
      ⟨_, by simpa only [draw] using h.operator (.operator cluster) hreader⟩
  | ⟨name, description, first :: rest, metadata, metrics, extras⟩, draft, weights, h, hreader => by
      have hfirst : Outweighed weights reader first.size := hreader.child List.mem_cons_self
      -- As an operator, the node is the reader of all inputs and outweighs them.
      obtain ⟨inner, hinner⟩ := draw_all_weighted (some draft.nextId) cluster (first :: rest)
        (h.operator (.operator cluster) hreader) fun child hmem => h.outweighs_child hmem
      rw [drawAll, List.append_assoc] at hinner
      rw [draw]
      cases Drawing.ofName name with
      | cluster =>
          -- No edge leads to a cluster, so its weight is of no consequence.
          obtain ⟨added, hadded⟩ := draw_weighted reader (some draft.nextId) first
            (h.add_node _ .cluster) (hfirst.mono (Nat.le_refl _) _)
          rw [List.append_assoc] at hadded
          exact ⟨_, hadded⟩
      | passed => exact draw_weighted reader none first h hfirst
      | stage =>
          cases hfound : draft.exchange? first with
          | none => exact draw_weighted reader none first h hfirst
          | some exchange => exact ⟨[], by simpa using h.reuse hfound hfirst⟩
      | reuse =>
          cases hfound : draft.exchange? first with
          | none => exact ⟨_, hinner⟩
          | some exchange => exact ⟨[], by simpa using h.reuse hfound hfirst⟩
      | node => exact ⟨_, hinner⟩

/-- Drawing plans below a reader that outweighs them keeps a draft weighted. -/
theorem draw_all_weighted (reader cluster : Option Nat) :
    ∀ (plans : List PlanTree) {draft : Draft} {weights : List Nat}, draft.Weighted weights →
      (∀ plan ∈ plans, Outweighed weights reader plan.size) →
      ∃ added, (drawAll reader cluster plans draft).Weighted (weights ++ added)
  | [], draft, weights, h, _ => ⟨[], by simpa only [drawAll, List.append_nil] using h⟩
  | plan :: rest, draft, weights, h, hreader => by
      obtain ⟨first, hfirst⟩ :=
        draw_weighted reader cluster plan h (hreader plan List.mem_cons_self)
      obtain ⟨added, hadded⟩ := draw_all_weighted reader cluster rest hfirst fun other hmem =>
        (hreader other (List.mem_cons_of_mem _ hmem)).mono (Nat.le_refl _) first
      exact ⟨first ++ added, by rw [drawAll, ← List.append_assoc]; exact hadded⟩

end

/-- The graph of a plan is acyclic: no way along its edges, from inputs to their readers, leads from
a node back to it. -/
theorem of_plan_acyclic (plan : PlanTree) (id : Nat) :
    ¬ Relation.TransGen (fun input reader => (input, reader) ∈ (ofPlan plan).edges) id id := by
  have hnone : Outweighed [] none plan.size := by
    intro id hid
    cases hid
  obtain ⟨weights, hweights⟩ := draw_weighted none none plan weighted_empty hnone
  rw [List.nil_append] at hweights
  intro hcycle
  obtain ⟨m, n, hm, hn, hlt⟩ := hweights.weights_lt hcycle
  obtain rfl := Option.some.inj (hm.symm.trans hn)
  exact Nat.lt_irrefl m hlt

end SparkLog.PlanGraph
