import SparkLog.Listing.Information
import SparkLog.Proofs.Listing.Columns
import SparkLog.Proofs.Rearrangement.Sorting

/-!
# The metrics of plans

A row of the listing of plan metrics stands for a node, an accumulator that the node declares and a
name and type under which the query declares it, with the largest value (`mem_plan_metric_rows`).
Rows are told apart by their place in the order, so the listing depends on what is declared, and not
on how often it is (`plan_metrics_congr`). It lists every row once, in that order
(`rows_of_plan_metrics`, `ordered_rows_sorted`).
-/

namespace SparkLog.Listing

namespace PlanMetricRow

/-- The order of rows compares one thing after the other. -/
theorem order_eq_lex : order =
    compareLex (compareOn query) (compareLex (compareOn node) (compareLex (compareOn nodeName)
      (compareLex (compareOn accumulator) (compareLex (compareOn name) (compareOn type))))) := rfl

/-- The order of rows is transitive. -/
theorem order_trans (a b c : PlanMetricRow) (h : (order a b).isLE = true)
    (h' : (order b c).isLE = true) : (order a c).isLE = true := by
  rw [order_eq_lex] at h h' ⊢
  exact Std.TransCmp.isLE_trans h h'

/-- A row is in front of another one as far as that is behind it. -/
theorem order_swap (a b : PlanMetricRow) : order b a = (order a b).swap := by
  rw [order_eq_lex]
  exact Std.OrientedCmp.eq_swap

/-- A row is in front of another one, or behind it. -/
theorem order_total (a b : PlanMetricRow) :
    ((order a b).isLE || (order b a).isLE) = true := by
  rw [order_swap a b]
  cases order a b <;> rfl

/-- Rows that are in front of each other differ in their value at most. -/
theorem eq_of_order {a b : PlanMetricRow} (h : (order a b).isLE = true)
    (h' : (order b a).isLE = true) : a = { b with value := a.value } := by
  have hsame : order a b = .eq := by
    rw [order_eq_lex] at h h' ⊢
    exact Std.OrientedCmp.isLE_antisymm h h'
  simp only [order, Ordering.then_eq_eq, Std.compare_eq_iff_eq] at hsame
  obtain ⟨query, node, nodeName, accumulator, name, type, value⟩ := a
  obtain ⟨rfl, rfl, rfl, rfl, rfl, rfl⟩ := hsame
  rfl

end PlanMetricRow

/-- Rows that stand strictly one after the other come once each. -/
theorem nodup_of_sorted {rows : List PlanMetricRow}
    (h : rows.Pairwise fun a b => PlanMetricRow.order a b = .lt) : rows.Nodup := by
  refine h.imp fun {a b} hlt hsame => ?_
  have hswap := PlanMetricRow.order_swap a b
  rw [← hsame] at hlt hswap
  rw [hlt] at hswap
  cases hswap

/-- Rows that stand strictly one after the other are told by which they are. -/
theorem sorted_rows_ext {rows others : List PlanMetricRow}
    (h : rows.Pairwise fun a b => PlanMetricRow.order a b = .lt)
    (h' : others.Pairwise fun a b => PlanMetricRow.order a b = .lt)
    (hmem : ∀ row, row ∈ rows ↔ row ∈ others) : rows = others := by
  have hperm := (List.perm_ext_iff_of_nodup (nodup_of_sorted h) (nodup_of_sorted h')).mpr hmem
  refine List.Perm.eq_of_pairwise (fun a b _ _ hlt hgt => ?_) h h' hperm
  rw [PlanMetricRow.order_swap, hlt] at hgt
  cases hgt

variable {store other : Store}

/-- A row tells the largest value of an accumulator that a node declares, under a name and a type
that its query declares for the accumulator. -/
theorem mem_plan_metric_rows {row : PlanMetricRow} : row ∈ planMetricRows store ↔
    ∃ node ∈ store.nodeMetrics, ∃ metric ∈ store.metrics, ∃ value,
      store.largestValues.find? (node.query, node.accumulator) = some value ∧
        metric.query = node.query ∧ metric.accumulator = node.accumulator ∧
        row =
          { query := node.query, node := node.node, nodeName := node.name
            accumulator := node.accumulator, name := metric.name, type := metric.type, value } := by
  simp only [planMetricRows, List.mem_flatMap]
  refine exists_congr fun node => and_congr_right fun _ => ?_
  cases store.largestValues.find? (node.query, node.accumulator) with
  | none => simp
  | some value =>
      simp only [declaredMetrics, List.map_map, List.mem_map, List.mem_filter, Bool.and_eq_true,
        beq_iff_eq, Option.some.injEq, exists_eq_left', Function.comp_apply]
      refine exists_congr fun metric => ?_
      rw [and_assoc, and_assoc, eq_comm (a := row)]

/-- The value of a row follows from its query and its accumulator. -/
theorem find_of_plan_metric_row {row : PlanMetricRow} (h : row ∈ planMetricRows store) :
    store.largestValues.find? (row.query, row.accumulator) = some row.value := by
  obtain ⟨node, -, metric, -, value, hvalue, -, -, rfl⟩ := mem_plan_metric_rows.mp h
  exact hvalue

/-- Rows of a store that are in front of each other are the same. -/
theorem plan_metric_rows_antisymm {a b : PlanMetricRow} (ha : a ∈ planMetricRows store)
    (hb : b ∈ planMetricRows store) (h : (PlanMetricRow.order a b).isLE = true)
    (h' : (PlanMetricRow.order b a).isLE = true) : a = b := by
  obtain ⟨value, rfl⟩ : ∃ value, a = { b with value } := ⟨_, PlanMetricRow.eq_of_order h h'⟩
  have hvalue : some value = some b.value :=
    (find_of_plan_metric_row ha).symm.trans (find_of_plan_metric_row hb)
  rw [Option.some.inj hvalue]

/-! ## The table -/

/-- The rows of the listing, each once and in their order. -/
def orderedRows (store : Store) : List PlanMetricRow :=
  ((planMetricRows store).mergeSort fun a b => (PlanMetricRow.order a b).isLE).eraseReps

/-- The rows that are put in order are those of the store. -/
theorem mem_ordered_rows {row : PlanMetricRow} :
    row ∈ orderedRows store ↔ row ∈ planMetricRows store := by
  rw [orderedRows, mem_erase_reps, List.mem_mergeSort]

/-- Every row is strictly in front of those that follow it. -/
theorem ordered_rows_sorted (store : Store) :
    (orderedRows store).Pairwise fun a b => PlanMetricRow.order a b = .lt := by
  have hsorted := List.pairwise_mergeSort PlanMetricRow.order_trans PlanMetricRow.order_total
    (planMetricRows store)
  have hanti : ∀ a ∈ (planMetricRows store).mergeSort fun a b => (PlanMetricRow.order a b).isLE,
      ∀ b ∈ (planMetricRows store).mergeSort fun a b => (PlanMetricRow.order a b).isLE,
        (PlanMetricRow.order a b).isLE = true → (PlanMetricRow.order b a).isLE = true → a = b :=
    fun a ha b hb =>
      plan_metric_rows_antisymm (List.mem_mergeSort.mp ha) (List.mem_mergeSort.mp hb)
  refine (erase_reps_sorted hsorted hanti).imp_of_mem fun {a b} ha hb h => ?_
  cases horder : PlanMetricRow.order a b with
  | lt => rfl
  | eq =>
      -- Rows at the same place are in front of each other, and so the same.
      have hback : (PlanMetricRow.order b a).isLE = true := by
        rw [PlanMetricRow.order_swap, horder]
        rfl
      exact absurd (plan_metric_rows_antisymm (mem_ordered_rows.mp ha) (mem_ordered_rows.mp hb)
        h.1 hback) h.2
  | gt =>
      rw [horder] at h
      cases h.1

/-- Different rows have different cells. -/
theorem PlanMetricRow.cells_injective (index : Int) : Function.Injective (cells index) := by
  intro a b h
  simp only [cells, List.cons.injEq, Cell.int.injEq, Cell.text.injEq, Nat.cast_inj, and_true,
    true_and] at h
  obtain ⟨query, node, nodeName, accumulator, name, type, value⟩ := a
  obtain ⟨rfl, rfl, rfl, rfl, rfl, rfl, rfl⟩ := h
  rfl

/-- The listing of plan metrics has the rows of the store, in their order. -/
theorem rows_of_plan_metrics (store : Store) (index : Int) :
    (planMetrics store index).rows = (orderedRows store).map (PlanMetricRow.cells index) := by
  refine Table.rows_of_rows_or (List.forall_mem_map.mpr fun _ _ => rfl) fun position hposition => ?_
  simp only [List.forall_mem_map]
  match position, hposition with
  | 0, _ | 1, _ | 2, _ | 4, _ | 6, _ => exact .inl fun _ _ => ⟨_, rfl⟩
  | 3, _ | 5, _ | 7, _ => exact .inr fun _ _ => rfl

/-- The listing of plan metrics is the same for stores that declare the same and have the same
largest values, however often something is declared. -/
theorem plan_metrics_congr (index : Int) (hlargest : other.largestValues = store.largestValues)
    (hmetrics : ∀ metric, metric ∈ other.metrics ↔ metric ∈ store.metrics)
    (hnodes : ∀ node, node ∈ other.nodeMetrics ↔ node ∈ store.nodeMetrics) :
    planMetrics other index = planMetrics store index := by
  have hrows (row : PlanMetricRow) : row ∈ planMetricRows other ↔ row ∈ planMetricRows store := by
    simp only [mem_plan_metric_rows, hlargest, hmetrics, hnodes]
  rw [planMetrics, planMetrics, sorted_erase_reps_congr PlanMetricRow.order_trans
    PlanMetricRow.order_total (fun _ ha _ hb => plan_metric_rows_antisymm ha hb) hrows]

end SparkLog.Listing
