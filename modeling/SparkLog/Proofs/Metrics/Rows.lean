import SparkLog.Inquiry
import SparkLog.Proofs.Derivation.Correlation
import SparkLog.Proofs.Listing.Columns
import SparkLog.Proofs.Outcome

/-!
# Rows of metric tables

A metric table has a row for every group of tasks, in their order, and the row shows what is rolled
up of the group (`job_rows`, `stage_rows`, `query_rows`).
-/

namespace SparkLog.Metrics

/-- A row shows how many tasks a group has, and every metric of them rolled up in its ways. -/
structure Shows (all : List Task) (table : Table) (row : List Cell) (tasks : List Task) : Prop where
  count : table.entry row "numTasks" = .int tasks.length
  metrics : ∀ rolled ∈ aggregations, ∃ x,
    aggregate (sumType all rolled.1) rolled.2 (tasks.map fun task => task.metrics.get rolled.1) =
        .ok x ∧
      table.entry row (columnName rolled.1 rolled.2) = .float x

/-- The figures of a group in their order. -/
theorem aggregate_row_figure {all tasks : List Task} {cells : List Cell}
    (h : aggregateRow all tasks = .ok cells) {rolled : TaskMetric × Aggregation}
    (hmem : rolled ∈ aggregations) :
    ∃ x, aggregate (sumType all rolled.1) rolled.2
        (tasks.map fun task => task.metrics.get rolled.1) = .ok x ∧
      cells[aggregations.idxOf rolled]? = some (.float x) := by
  have hposition : aggregations.idxOf rolled < aggregations.length :=
    List.idxOf_lt_length_of_mem hmem
  have hcells := congrArg (·[aggregations.idxOf rolled]?) (map_m_eq_ok_iff.mp h)
  simp only [List.getElem?_map, List.getElem?_eq_getElem hposition, List.getElem_idxOf,
    Option.map_some] at hcells
  obtain ⟨cell, hfound, hcell⟩ := Option.map_eq_some_iff.mp hcells.symm
  obtain ⟨x, hx, rfl⟩ := map_eq_ok_iff.mp hcell.symm
  exact ⟨x, hx, hfound⟩

/-! ## Rows per job and per stage -/

/-- The columns of metrics follow those of the owner. -/
theorem owner_column : ∀ rolled ∈ aggregations,
    ownerColumns.idxOf (columnName rolled.1 rolled.2) = 4 + aggregations.idxOf rolled := by
  decide +kernel

/-- The row of an owner shows what is rolled up of its tasks. -/
structure OwnerRow (kind : String) (all : List Task) (table : Table) (group : Int × List Task)
    (row : List Cell) : Prop where
  owner : table.entry row "ID" = .text (kind ++ "_" ++ Decimal.intText group.1)
  shows : Shows all table row group.2

section OwnerRows

variable {index : Int} {kind : String} {durations : List (Scalar × Option Int)}
  {all : List Task} {groups : List (Int × List Task)} {rows : List (List Cell)} {table : Table}

/-- There is one row per group. -/
theorem owner_rows (h : ownerRows index kind durations all groups = .ok rows)
    (hcolumns : table.columns = ownerColumns) :
    List.Forall₂ (OwnerRow kind all table) groups rows := by
  obtain ⟨figures, hfigures, hrows⟩ := bind_eq_ok_iff.mp h
  obtain rfl := pure_eq_ok_iff.mp hrows
  have hpaired := paired_of_map_m hfigures
  clear hfigures h hrows
  induction hpaired with
  | nil => exact .nil
  | @cons group cells groups figures hcells _ ih =>
      refine .cons ⟨?_, ?_, fun rolled hmem => ?_⟩ ih
      · rw [Table.entry, hcolumns]
        rfl
      · rw [Table.entry, hcolumns]
        rfl
      · obtain ⟨x, hx, hfound⟩ := aggregate_row_figure hcells hmem
        refine ⟨x, hx, ?_⟩
        rw [Table.entry, hcolumns, owner_column rolled hmem, Nat.add_comm]
        simp [hfound]

end OwnerRows

section Tables

variable {store : Store} {index : Int} {all : List Task} {table : Table}

/-- The rows of metrics per job. -/
theorem job_rows (h : jobTable store index all = .ok table) :
    List.Forall₂ (OwnerRow "job" all table) (groups store.jobStagePairs (knownTasks store all))
      table.rows := by
  unfold jobTable at h
  dsimp only at h
  split at h
  · next hnone =>
      obtain rfl := pure_eq_ok_iff.mp h
      rw [List.isEmpty_iff.mp hnone]
      exact .nil
  · obtain ⟨rows, hrows, h⟩ := bind_eq_ok_iff.mp h
    obtain rfl := pure_eq_ok_iff.mp h
    exact owner_rows hrows rfl

/-- The rows of metrics per stage. -/
theorem stage_rows (h : stageTable store index all = .ok table) :
    List.Forall₂ (OwnerRow "stage" all table)
      (groups ((increasing ((knownTasks store all).map Task.stage)).map fun stage => (stage, stage))
        (knownTasks store all))
      table.rows := by
  unfold stageTable at h
  dsimp only at h
  split at h
  · next hnone =>
      obtain rfl := pure_eq_ok_iff.mp h
      rw [List.isEmpty_iff.mp hnone]
      exact .nil
  · obtain ⟨rows, hrows, h⟩ := bind_eq_ok_iff.mp h
    obtain rfl := pure_eq_ok_iff.mp h
    exact owner_rows hrows rfl

/-! ## Rows per query -/

/-- The columns of metrics follow those of the query. -/
theorem query_column : ∀ rolled ∈ aggregations,
    queryColumns.idxOf (columnName rolled.1 rolled.2) = 9 + aggregations.idxOf rolled := by
  decide +kernel

/-- The row of a query shows what is rolled up of its tasks, their times, and the share of the one
in the other. -/
structure QueryRow (all : List Task) (table : Table) (group : Int × List Task)
    (row : List Cell) : Prop where
  query : table.entry row "sqlID" = .int group.1
  shows : Shows all table row group.2
  cpuTime : table.entry row "executorCPUTime" = .int (metricSum all group.2 .cpuTime)
  runTime : table.entry row "executorRunTime" = .int (metricSum all group.2 .runTime)
  share : ∃ share,
    cpuShare (.int (metricSum all group.2 .cpuTime)) (.int (metricSum all group.2 .runTime)) =
        .ok share ∧
      (table.entry row "executorCPURatio").toPayload = (Cell.ofOption .float share).toPayload

/-- The cells of a query before its column is brought to one kind. -/
theorem query_row_eq_ok {id : Int} {tasks : List Task} {row : List Cell}
    (h : queryRow store index all id tasks = .ok row) : ∃ cells share appId description duration,
      aggregateRow all tasks = .ok cells ∧
      cpuShare (.int (metricSum all tasks .cpuTime)) (.int (metricSum all tasks .runTime)) =
        .ok share ∧
      row = [.int index, appId, .int id, description, .int tasks.length, duration,
        .int (metricSum all tasks .cpuTime), .int (metricSum all tasks .runTime),
        .ofOption .float share] ++ cells := by
  obtain ⟨cells, hcells, h⟩ := bind_eq_ok_iff.mp h
  obtain ⟨share, hshare, h⟩ := bind_eq_ok_iff.mp h
  exact ⟨cells, share, _, _, _, hcells, hshare, (pure_eq_ok_iff.mp h).symm⟩

/-- A column of integers in the rows of queries. -/
theorem query_row_ints {groups : List (Int × List Task)} {rows : List (List Cell)}
    (h : List.Forall₂ (fun group row => queryRow store index all group.1 group.2 = .ok row) groups
      rows) {name : String}
    (hname : name ∈ ["sqlID", "numTasks", "executorCPUTime", "executorRunTime"]) :
    ∀ row ∈ rows, ∃ n, row.getD (queryColumns.idxOf name) .missing = .int n := by
  intro row hrow
  obtain ⟨group, -, hrow⟩ := exists_of_paired h hrow
  obtain ⟨cells, share, appId, description, duration, -, -, rfl⟩ := query_row_eq_ok hrow
  simp only [List.mem_cons, List.not_mem_nil, or_false] at hname
  obtain rfl | rfl | rfl | rfl := hname <;> exact ⟨_, rfl⟩

/-- The rows of metrics per query. -/
theorem query_rows (h : queryTable store index all = .ok table) :
    List.Forall₂ (QueryRow all table) (groups store.queryStagePairs (knownTasks store all))
      table.rows := by
  obtain ⟨rows, hrows, h⟩ := bind_eq_ok_iff.mp h
  obtain rfl := pure_eq_ok_iff.mp h
  have hpaired := paired_of_map_m hrows
  rw [Table.ofRowsOr]
  split
  · next hnone =>
      rw [List.isEmpty_iff.mp hnone] at hpaired
      rw [List.forall₂_nil_right_iff.mp hpaired]
      exact .nil
  refine paired_trans (fun group row settled hrow hsettled => ?_) hpaired Table.rows_settled
  have hint {name : String}
      (hname : name ∈ ["sqlID", "numTasks", "executorCPUTime", "executorRunTime"])
      (hcolumn : name ∈ queryColumns) :
      (Table.ofRows queryColumns rows).entry settled name =
        row.getD (queryColumns.idxOf name) .missing :=
    (hsettled name hcolumn).2 (query_row_ints hpaired hname)
  obtain ⟨cells, share, appId, description, duration, hcells, hshare, rfl⟩ := query_row_eq_ok hrow
  have hmetric : ∀ rolled ∈ aggregations, columnName rolled.1 rolled.2 ∈ queryColumns :=
    fun rolled hmem => List.mem_append_right _ (List.mem_map_of_mem hmem)
  refine ⟨(hint (by decide) (by decide)).trans rfl,
    ⟨(hint (by decide) (by decide)).trans rfl, fun rolled hmem => ?_⟩,
    (hint (by decide) (by decide)).trans rfl, (hint (by decide) (by decide)).trans rfl,
    share, hshare, ?_⟩
  · obtain ⟨x, hx, hfound⟩ := aggregate_row_figure hcells hmem
    refine ⟨x, hx, ?_⟩
    have hcell := (hsettled _ (hmetric rolled hmem)).1
    rw [query_column rolled hmem, Nat.add_comm] at hcell
    simpa [hfound, Cell.toFloat] using hcell
  · obtain hcell | hcell := (hsettled "executorCPURatio" (by decide)).1
    · exact congrArg Cell.toPayload hcell
    · refine (congrArg Cell.toPayload hcell).trans ?_
      cases share <;> rfl

end Tables

end SparkLog.Metrics

/-! ## Answers of an analysis -/

namespace SparkLog.Analysis

/-- An analysis answers every inquiry from its own store and tasks. -/
theorem ask_eq_answer {settings : Settings} {index : Int} {records : List Payload}
    {analysis : Analysis} (h : ofRecords settings index records = .ok analysis)
    (inquiry : Inquiry) : analysis.ask inquiry =
      inquiry.answer analysis.store analysis.settings index analysis.store.tasks := by
  obtain ⟨-, derived, hderive, rfl⟩ := of_records_eq_ok_iff.mp h
  obtain ⟨-, rfl⟩ := Store.derive_eq_ok_iff.mp hderive
  exact if_pos (Bool.or_true _)

/-- The table that answers an inquiry, if a table does. -/
def table? (analysis : Analysis) (inquiry : Inquiry) : Option Table :=
  match analysis.ask inquiry with
  | .ok (.table table) => some table
  | _ => none

/-- An inquiry is answered with its table. -/
theorem ask_of_table {analysis : Analysis} {inquiry : Inquiry} {table : Table}
    (h : analysis.table? inquiry = some table) : analysis.ask inquiry = .ok (.table table) := by
  unfold table? at h
  split at h
  · next hask => rw [hask, Option.some.inj h]
  · cases h

end SparkLog.Analysis
