import Mathlib.Algebra.Order.Ring.Int
import SparkLog.Listing.Qualification
import SparkLog.Proofs.Derivation.Counting
import SparkLog.Proofs.Listing.Columns

/-!
# Qualification, by the history

The summary and the details of a qualification are told by the history of the run: by the queries
whose jobs all succeeded, in increasing order, and by what each of them counts
(`qualification_told`).
-/

namespace SparkLog.Listing

open Payload

/-! ## Included queries -/

/-- A query is left out exactly if a job of it has another result than success. -/
theorem mem_unsuccessful_iff {store : Store} {id : Int} : id ∈ unsuccessfulQueries store ↔
    ∃ job ∈ store.jobs.values, job.query = some id ∧ job.result ≠ some Job.success := by
  simp only [unsuccessfulQueries, mem_increasing, List.mem_filterMap]
  refine exists_congr fun job => and_congr_right fun _ => ?_
  split <;> simp_all

/-- The queries that are not left out, by identifier. -/
def includedEntries (store : Store) : List (Int × Query) :=
  (sortedQueries store).filter fun entry => !(unsuccessfulQueries store).contains entry.1

/-- Queries are sorted strictly, for no two have the same identifier. -/
theorem sorted_queries_pairwise {store : Store} (hapart : store.queries.Apart (· == ·)) :
    (sortedQueries store).Pairwise fun a b => a.1 < b.1 :=
  sort_by_id_strict hapart.nodup

section Recorded

variable {store derived : Store} {history : List Event} (h : store.Recorded history)
  (hderive : store.derive = .ok derived)
include h hderive

/-- The included queries come strictly by identifier. -/
theorem included_sorted : ((includedEntries derived).map Prod.fst).Pairwise (· < ·) := by
  have hapart : derived.queries.Apart (· == ·) := by
    obtain ⟨-, -, hqueries⟩ := Store.derived_records hderive
    rw [hqueries]
    exact h.queries.apart.map_values _
  exact List.pairwise_map.mpr ((sorted_queries_pairwise hapart).filter _)

/-- A query is included exactly if it was started and its jobs ended with success. -/
theorem mem_included_iff {id : Int} : id ∈ (includedEntries derived).map Prod.fst ↔
    (History.query? history id).isSome ∧ History.JobsSucceeded history id := by
  obtain ⟨hjobs, -, hqueries⟩ := Store.derived_records hderive
  have hstarted : (History.query? history id).isSome ↔
      ∃ entry ∈ derived.queries.entries, entry.1 = id := by
    have hfind : store.queries.find? id = History.query? history id := h.queries.find id
    rw [← hfind, Keyed.find?, Keyed.find_by_is_some_iff, hqueries]
    simp [Keyed.mapValues]
  have hsucceeded : History.JobsSucceeded history id ↔ id ∉ unsuccessfulQueries derived := by
    rw [h.jobs_succeeded_iff, mem_unsuccessful_iff, hjobs]
    simp only [not_exists, not_and, not_not]
  rw [hstarted, hsucceeded]
  simp only [includedEntries, sortedQueries, sortByKeys, List.mem_map, List.mem_filter,
    List.mem_mergeSort, Bool.not_eq_true', List.contains_eq_mem, decide_eq_false_iff_not]
  constructor
  · rintro ⟨entry, ⟨hmem, hincluded⟩, rfl⟩
    exact ⟨⟨entry, hmem, rfl⟩, hincluded⟩
  · rintro ⟨⟨entry, hmem, rfl⟩, hincluded⟩
    exact ⟨entry, ⟨hmem, hincluded⟩, rfl⟩

/-- The included queries have their identifiers, and count what the history says. -/
theorem included_counts :
    (includedQueries derived).map Query.id = (includedEntries derived).map Prod.fst ∧
      (includedQueries derived).map Query.qualifyingDuration =
        ((includedEntries derived).map Prod.fst).map (History.countedDuration history) := by
  have hentry : ∀ entry ∈ includedEntries derived, entry.2.id = entry.1 ∧
      entry.2.qualifyingDuration = History.countedDuration history entry.1 := by
    intro entry hincluded
    obtain ⟨-, -, hqueries⟩ := Store.derived_records hderive
    have hmem : entry ∈ derived.queries.entries :=
      List.mem_mergeSort.mp (List.mem_of_mem_filter hincluded)
    rw [hqueries] at hmem
    obtain ⟨before, hbefore, rfl⟩ := List.mem_map.mp hmem
    exact h.counts
      (h.queries.apart.find_by_of_mem beq_equivalence hbefore (beq_self_eq_true _))
  rw [includedQueries, List.map_map, List.map_map, List.map_map]
  exact ⟨List.map_congr_left fun entry hmem => (hentry entry hmem).1,
    List.map_congr_left fun entry hmem => (hentry entry hmem).2⟩

end Recorded

/-! ## The summary -/

/-- A score is a number. -/
theorem score_ne_nan {qualifying : Int} {duration : Option Int} {score : Binary64}
    (h : scoreOf qualifying duration = .ok (some score)) : score ≠ .nan := by
  unfold scoreOf at h
  split at h
  · cases h
  · cases h
  · obtain ⟨share, hshare, hscore⟩ := bind_eq_ok_iff.mp h
    obtain ⟨rounded, hrounded, hsome⟩ := map_eq_ok_iff.mp hscore
    obtain rfl := Option.some.inj hsome
    cases hround : Decimal.roundFloat? share 2 with
    | none =>
        rw [hround] at hrounded
        cases hrounded
    | some figure =>
        rw [hround] at hrounded
        obtain rfl := Except.ok.inj hrounded
        exact Decimal.round_float_ne_nan (divide_ints_ne_nan hshare) hround

/-- There is no score exactly without a duration of the application. -/
theorem score_of_cases {qualifying : Int} {duration : Option Int} {score : Option Binary64}
    (h : scoreOf qualifying duration = .ok score) :
    (Cell.ofOption .float score).isMissing = true ↔ duration = none ∨ duration = some 0 := by
  cases score with
  | none =>
      refine iff_of_true rfl ?_
      unfold scoreOf at h
      split at h
      · exact .inl rfl
      · exact .inr rfl
      · obtain ⟨share, -, hscore⟩ := bind_eq_ok_iff.mp h
        obtain ⟨rounded, -, hsome⟩ := map_eq_ok_iff.mp hscore
        cases hsome
  | some score =>
      have hpresent : (Cell.float score).isMissing = false := by
        cases score with
        | nan => exact absurd rfl (score_ne_nan h)
        | _ => rfl
      refine iff_of_false (Bool.eq_false_iff.mp hpresent) ?_
      rintro (rfl | rfl) <;> cases h

section Tables

variable {store : Store} {index : Int} {application : Application}
  (happlication : store.application = some application)
include happlication

/-- The summary holds the sum of what the included queries count, and a score if the application has
a duration. -/
theorem summary_columns {summary : Table} (h : qualificationSummary store index = .ok summary) :
    let sum := total ((includedQueries store).map Query.qualifyingDuration)
    summary.column "SQL Dataframe Duration" = [.int sum] ∧
      (∃ score, summary.column "Score" = [score] ∧
        (score.isMissing = true ↔
          application.duration = none ∨ application.duration = some 0)) := by
  unfold qualificationSummary at h
  rw [happlication] at h
  simp only [bind_eq_ok_iff] at h
  obtain ⟨score, hscore, share, -, htable⟩ := h
  obtain rfl := pure_eq_ok_iff.mp htable
  exact ⟨Table.column_of_row (by decide : "SQL Dataframe Duration" ∈ summaryColumns) _,
    _, Table.column_of_row (by decide : "Score" ∈ summaryColumns) _, score_of_cases hscore⟩

/-- The details hold the identifier of every included query and what it counts. -/
theorem details_columns (index : Int) :
    (qualificationDetails store index).column "sqlID" =
        (includedQueries store).map (.int ·.id) ∧
      (qualificationDetails store index).column "dfDuration" =
        (includedQueries store).map (.int ·.qualifyingDuration) := by
  have hints (f : Query → Int) : Column.settle ((includedQueries store).map (.int <| f ·)) =
      (includedQueries store).map (.int <| f ·) := by
    have hcells := Column.settle_ints ((includedQueries store).map f)
    rwa [List.map_map] at hcells
  unfold qualificationDetails Table.ofRowsOr
  rw [happlication]
  dsimp only
  split
  · next hempty =>
      rw [List.isEmpty_iff, List.map_eq_nil_iff] at hempty
      rw [hempty]
      exact ⟨rfl, rfl⟩
  · rw [Table.column_of_rows (by decide : "sqlID" ∈ detailColumns),
      Table.column_of_rows (by decide : "dfDuration" ∈ detailColumns), Table.cellsAt,
      Table.cellsAt, List.map_map, List.map_map]
    exact ⟨hints Query.id, hints Query.qualifyingDuration⟩

end Tables

/-! ## Both, by the history -/

/-- The summary and the details of a qualification are told by the history: they are about the
queries that were started and whose jobs all succeeded, in increasing order, and about what each of
these counts. -/
theorem qualification_told {settings : Settings} (hlenient : settings.strict = false) {index : Int}
    {records : List Payload} {analysis : Analysis}
    (hanalysis : Analysis.ofRecords settings index records = .ok analysis)
    (hstarted : ((Store.handled settings {} (records.filterMap readEvent?)).findSome?
      (·.content.application?)).isSome)
    {summary : Table} (hsummary : qualificationSummary analysis.store index = .ok summary) :
    let history := Store.handled settings {} (records.filterMap readEvent?)
    ∃ ids : List Int, ids.Pairwise (· < ·) ∧
      (∀ id, id ∈ ids ↔ (History.query? history id).isSome ∧ History.JobsSucceeded history id) ∧
      summary.column "SQL Dataframe Duration" =
        [.int (ids.map (History.countedDuration history)).sum] ∧
      (∃ application, analysis.store.application = some application ∧
        ∃ score, summary.column "Score" = [score] ∧ (score.isMissing = true ↔
          application.duration = none ∨ application.duration = some 0)) ∧
      (qualificationDetails analysis.store index).column "sqlID" = ids.map .int ∧
      (qualificationDetails analysis.store index).column "dfDuration" =
        ids.map fun id => .int (History.countedDuration history id) := by
  intro history
  obtain ⟨hcomplete, derived, hderive, rfl⟩ := Analysis.of_records_eq_ok_iff.mp hanalysis
  have hrecorded : (Intake.records settings {} records).1.store.Recorded history := by
    rw [Intake.records_store_eq hlenient hcomplete]
    exact Store.recorded_absorb_all settings _
  obtain ⟨-, hclosed, -⟩ := Store.derived_records hderive
  obtain ⟨application, happlication⟩ : ∃ application, derived.application = some application := by
    rw [hclosed, Store.closed, hrecorded.application, ← Option.isSome_iff_exists,
      Option.isSome_map]
    exact hstarted
  obtain ⟨hids, hcounts⟩ := included_counts hrecorded hderive
  obtain ⟨hsum, hscore⟩ := summary_columns happlication hsummary
  obtain ⟨hidCells, hcountCells⟩ := details_columns happlication index
  rw [hcounts, total_eq_sum] at hsum
  refine ⟨(includedEntries derived).map Prod.fst, included_sorted hrecorded hderive,
    fun id => mem_included_iff hrecorded hderive, hsum, ⟨application, happlication, hscore⟩, ?_, ?_⟩
  · rw [hidCells, ← hids, List.map_map]
    rfl
  · have hcells := congrArg (List.map Cell.int) hcounts
    rw [List.map_map, List.map_map] at hcells
    exact hcountCells.trans hcells

/-- A query with two jobs that succeed. Its first plan has a dataset operation, the one that
replaces it has none. -/
def replannedQuery : List Payload :=
  [ .object
      [ ("Event", .text "SparkListenerApplicationStart"), ("App Name", .text "a"),
        ("Timestamp", .int 0) ],
    planned "SparkListenerSQLExecutionStart" "MapElements $Lambda$5",
    planned "SparkListenerSQLAdaptiveExecutionUpdate" "Filter",
    started 1, started 2, ended 1, ended 2,
    .object
      [ ("Event", .text "org.apache.spark.sql.execution.ui.SparkListenerSQLExecutionEnd"),
        ("executionId", .int 7), ("time", .int 40) ],
    .object [("Event", .text "SparkListenerApplicationEnd"), ("Timestamp", .int 100)] ]
where
  /-- An event about the query with a plan of one node. -/
  planned (name description : String) : Payload :=
    .object
      [ ("Event", .text ("org.apache.spark.sql.execution.ui." ++ name)), ("executionId", .int 7),
        ("time", .int 10),
        ("sparkPlanInfo", .object
          [("nodeName", .text "Node"), ("simpleString", .text description)]) ]
  /-- The start of a job of the query. -/
  started (id : Int) : Payload :=
    .object
      [ ("Event", .text "SparkListenerJobStart"), ("Job ID", .int id), ("Submission Time", .int 11),
        ("Properties", .object [("spark.sql.execution.id", .int 7)]) ]
  /-- The end of a job with success. -/
  ended (id : Int) : Payload :=
    .object
      [ ("Event", .text "SparkListenerJobEnd"), ("Job ID", .int id), ("Completion Time", .int 20),
        ("Job Result", .object [("Result", .text "JobSucceeded")]) ]

/-- The query counts with its duration, by the plan that replaced the first one. -/
theorem qualification_told_replanned :
    let history := Store.handled {} {} (replannedQuery.filterMap readEvent?)
    ∃ analysis summary, Analysis.ofRecords {} 1 replannedQuery = .ok analysis ∧
      (history.findSome? (·.content.application?)).isSome ∧
      qualificationSummary analysis.store 1 = .ok summary ∧
      summary.column "SQL Dataframe Duration" = [.int 30] ∧
      (∃ score, summary.column "Score" = [score] ∧ score.isMissing = false) ∧
      (qualificationDetails analysis.store 1).column "sqlID" = [.int 7] ∧
      (qualificationDetails analysis.store 1).column "dfDuration" = [.int 30] ∧
      ∀ id, id = 7 ↔ (History.query? history id).isSome ∧ History.JobsSucceeded history id := by
  have hanswers : (Analysis.ofRecords {} 1 replannedQuery).toOption.any (fun analysis =>
      (qualificationSummary analysis.store 1).toOption.any (fun summary =>
        summary.column "SQL Dataframe Duration" = [.int 30] ∧
          (summary.column "Score").map Cell.isMissing = [false]) &&
      (qualificationDetails analysis.store 1).column "sqlID" = [.int 7] &&
      (qualificationDetails analysis.store 1).column "dfDuration" = [.int 30]) = true := by
    decide +kernel
  have hstarted : ((Store.handled {} {} (replannedQuery.filterMap readEvent?)).findSome?
      (·.content.application?)).isSome = true := by
    decide +kernel
  obtain ⟨analysis, hsome, hboth⟩ := (Option.any_eq_true _ _).mp hanswers
  simp only [Bool.and_eq_true, decide_eq_true_eq] at hboth
  obtain ⟨⟨hsummaryCells, hidCells⟩, hcountCells⟩ := hboth
  obtain ⟨summary, hsummary, hsummaryColumns⟩ := (Option.any_eq_true _ _).mp hsummaryCells
  rw [decide_eq_true_eq] at hsummaryColumns
  rw [to_option_eq_some_iff] at hsome hsummary
  obtain ⟨ids, -, hmem, -, ⟨application, -, score, hscore, -⟩, hlisted, -⟩ :=
    qualification_told rfl hsome hstarted hsummary
  have hids : ids.map Cell.int = [7].map Cell.int := hlisted.symm.trans hidCells
  have hids := List.map_injective_iff.mpr (fun _ _ => Cell.int.inj) hids
  refine ⟨analysis, summary, hsome, hstarted, hsummary, hsummaryColumns.1, ⟨score, hscore, ?_⟩,
    hidCells, hcountCells, fun id => ?_⟩
  · have hpresent := hsummaryColumns.2
    rw [hscore] at hpresent
    exact List.singleton_inj.mp hpresent
  · rw [← hmem, hids, List.mem_singleton]

end SparkLog.Listing
