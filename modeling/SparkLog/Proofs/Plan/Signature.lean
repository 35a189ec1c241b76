import SparkLog.Plan.Basic

/-!
# What a signature tells about a plan

Plans with the same signature have the same operator and description, and inputs with the same
signatures one by one (`PlanTree.eq_of_signature_eq`). So they have the same shape, and in
particular as many operators (`PlanTree.size_eq_of_signature_eq`).
-/

namespace SparkLog.PlanTree

open Payload

mutual

/-- The number of operators of a plan. -/
def size : PlanTree → Nat
  | ⟨_, _, children, _, _, _⟩ => sizes children + 1

/-- The number of operators of plans. -/
def sizes : List PlanTree → Nat
  | [] => 0
  | plan :: rest => size plan + sizes rest

end

/-- A plan has one operator more than its inputs. -/
theorem size_eq (plan : PlanTree) : plan.size = sizes plan.children + 1 := by
  cases plan
  rw [size]

/-- An input has fewer operators than the inputs together. -/
theorem size_le_sizes {plan : PlanTree} {plans : List PlanTree} (h : plan ∈ plans) :
    plan.size ≤ sizes plans := by
  induction plans with
  | nil => cases h
  | cons first rest ih =>
      rw [sizes]
      cases h with
      | head => omega
      | tail _ h =>
          have hrest := ih h
          omega

/-- An input has fewer operators than the plan. -/
theorem size_lt_of_mem_children {plan child : PlanTree} (h : child ∈ plan.children) :
    child.size < plan.size := by
  have hle := size_le_sizes h
  rw [size_eq plan]
  omega

/-- The inputs of a plan are written as their signatures. -/
theorem exchangeable_payloads (plans : List PlanTree) :
    exchangeableItems (payloads plans) = plans.map signature := by
  induction plans with
  | nil => rfl
  | cons plan rest ih => simp [payloads, exchangeableItems, signature, ih]

/-- A signature, field by field. -/
theorem signature_eq (plan : PlanTree) :
    plan.signature =
      .object
        ([ ("nodeName", .text plan.name), ("simpleString", .text plan.description),
           ("children", .list (plan.children.map signature)),
           ("metadata", .object (exchangeableFields plan.metadata)),
           ("metrics", .list (exchangeableItems (plan.metrics.map PlanMetric.toPayload))) ] ++
          exchangeableFields plan.extras) := by
  cases plan
  simp [signature, toPayload, exchangeable, exchangeableFields, exchangeable_payloads]

/-- Plans with the same signature have the same operator and description, and inputs with the same
signatures. -/
theorem eq_of_signature_eq {plan other : PlanTree} (h : plan.signature = other.signature) :
    plan.name = other.name ∧ plan.description = other.description ∧
      plan.children.map signature = other.children.map signature := by
  rw [signature_eq plan, signature_eq other] at h
  simp only [List.cons_append, Payload.object.injEq, List.cons.injEq, Prod.mk.injEq, true_and,
    Payload.text.injEq, Payload.list.injEq] at h
  exact ⟨h.1, h.2.1, h.2.2.1⟩

mutual

/-- Plans with the same signature have equally many operators. -/
theorem size_eq_of_signature_eq :
    ∀ {plan other : PlanTree}, plan.signature = other.signature → plan.size = other.size
  | ⟨name, description, children, metadata, metrics, extras⟩, other, h => by
      obtain ⟨-, -, hchildren⟩ := eq_of_signature_eq h
      rw [size, size_eq other, sizes_eq_of_signatures_eq hchildren]

/-- Lists of plans with the same signatures have equally many operators. -/
theorem sizes_eq_of_signatures_eq :
    ∀ {plans others : List PlanTree}, plans.map signature = others.map signature →
      sizes plans = sizes others
  | [], [], _ => rfl
  | plan :: rest, other :: others, h => by
      rw [List.map_cons, List.map_cons] at h
      obtain ⟨hfirst, hrest⟩ := List.cons.inj h
      rw [sizes, sizes, size_eq_of_signature_eq hfirst, sizes_eq_of_signatures_eq hrest]

end

end SparkLog.PlanTree
