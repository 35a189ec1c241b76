import Mathlib.Algebra.Order.Ring.Int
import Mathlib.Algebra.Order.Ring.Nat
import SparkLog.Proofs.Decimal.Digits
import SparkLog.Proofs.Decimal.Exact
import SparkLog.Proofs.Metrics.Answers

/-!
# Metrics of jobs and queries, rolled up from those of stages

While metrics and their sums are exact as floating-point numbers, the row of a job or a query tells
the same as the rows of its stages: sums are the sums of theirs, and largest and smallest values the
largest and smallest of theirs (`RollsUp`). There is a row exactly if one of the stages has tasks
(`HasRollUp`).
-/

namespace SparkLog

/-! ## Figures -/

/-- The integer that a cell shows, if it shows one. -/
def Cell.whole? : Cell → Option Int
  | .int n => some n
  | .float x => x.toInt?
  | _ => none

namespace Table

/-- The integer that a row shows in a column. -/
def figure? (table : Table) (name : String) (row : List Cell) : Option Int :=
  (table.entry row name).whole?

/-- The rows with a cell in a column. -/
def rowsWith (table : Table) (name : String) (cell : Cell) : List (List Cell) :=
  table.rows.filter fun row => table.entry row name == cell

/-- Rows that stand for groups in order, of which one has the key of a cell. -/
theorem rows_with_paired {R : Int × List Task → List Cell → Prop} {table : Table} {name : String}
    {groups : List (Int × List Task)} {owner : Int} {cell : Cell}
    (hcell : ∀ group row, R group row → (table.entry row name = cell ↔ group.1 = owner))
    (h : List.Forall₂ R groups table.rows) :
    List.Forall₂ R (groups.filter fun group => group.1 == owner) (table.rowsWith name cell) := by
  refine List.rel_filter (fun group row hrow => ?_) h
  show (group.1 == owner) = true ↔ (table.entry row name == cell) = true
  rw [beq_iff_eq, beq_iff_eq, hcell group row hrow]

end Table

/-- Every metric is among all of them. -/
theorem TaskMetric.mem_all (metric : TaskMetric) : metric ∈ TaskMetric.all := by
  cases metric <;> decide

namespace Metrics

namespace Aggregation

/-- The way in which the exact values of parts make up that of the whole. There is none for an
average. -/
def exact : Aggregation → List Int → Option Int
  | .sum, values => some (total values)
  | .max, values => values.max?
  | .min, values => values.min?
  | .average, _ => none

/-- What is rolled up does not depend on the order. -/
theorem exact_perm (way : Aggregation) {values others : List Int} (hperm : values.Perm others) :
    way.exact values = way.exact others := by
  cases way with
  | sum => exact congrArg some (total_perm hperm)
  | max => exact max_perm hperm
  | min => exact min_perm hperm
  | average => rfl

/-- What is first among what is first in each part is first in the whole. -/
theorem first_flatten {before : Int → Int → Prop}
    (htrans : ∀ {a b c}, before a b → before b c → before a c)
    {parts : List (List Int)} {values : List Int}
    (h : List.Forall₂ (fun part first => first ∈ part ∧ ∀ value ∈ part, before first value) parts
      values) {first : Int} (hfirst : first ∈ values ∧ ∀ value ∈ values, before first value) :
    first ∈ parts.flatten ∧ ∀ value ∈ parts.flatten, before first value := by
  obtain ⟨hmem, hbefore⟩ := hfirst
  obtain ⟨part, hpart, hinPart, -⟩ := exists_of_paired h hmem
  refine ⟨List.mem_flatten.mpr ⟨part, hpart, hinPart⟩, fun value hvalue => ?_⟩
  obtain ⟨other, hother, hinOther⟩ := List.mem_flatten.mp hvalue
  obtain ⟨first', hmem', -, hbefore'⟩ := exists_of_paired h.flip hother
  exact htrans (hbefore first' hmem') (hbefore' value hinOther)

/-- Something is rolled up to an exact value, but for averages. -/
theorem exact_some {way : Aggregation} (hway : way ≠ .average) {values : List Int}
    (hsome : values ≠ []) : ∃ n, way.exact values = some n := by
  cases way with
  | sum => exact ⟨_, rfl⟩
  | max => exact Option.ne_none_iff_exists'.mp (mt List.max?_eq_none_iff.mp hsome)
  | min => exact Option.ne_none_iff_exists'.mp (mt List.min?_eq_none_iff.mp hsome)
  | average => exact absurd rfl hway

/-- The sum of what each part tells is the sum over the parts, if telling adds up over lists. -/
theorem total_of_parts {α : Type} {tell : List α → Int} (hnil : tell [] = 0)
    (happend : ∀ items others, tell (items ++ others) = tell items + tell others)
    {parts : List (List α)} {values : List Int}
    (h : List.Forall₂ (fun part value => some (tell part) = some value) parts values) :
    tell parts.flatten = total values := by
  induction h with
  | nil => exact hnil
  | cons hpart _ ih => rw [List.flatten_cons, happend, ih, total, Option.some.inj hpart]

/-- What is rolled up of parts is rolled up of what each of them is rolled up to. -/
theorem exact_flatten (way : Aggregation) {parts : List (List Int)} {values : List Int}
    (h : List.Forall₂ (fun part value => way.exact part = some value) parts values) :
    way.exact parts.flatten = way.exact values := by
  obtain rfl | hsome := eq_or_ne values []
  · rw [List.forall₂_nil_right_iff.mp h]
    rfl
  cases way with
  | sum =>
      refine congrArg some (total_of_parts rfl (fun items others => ?_) h)
      rw [total_eq_sum, total_eq_sum, total_eq_sum, List.sum_append]
  | max =>
      obtain ⟨largest, hlargest⟩ :=
        Option.ne_none_iff_exists'.mp (mt List.max?_eq_none_iff.mp hsome)
      refine Eq.trans ?_ hlargest.symm
      simp only [exact, List.max?_eq_some_iff] at h hlargest ⊢
      exact @first_flatten (· ≥ ·) (fun hba hcb => Int.le_trans hcb hba) _ _ h _ hlargest
  | min =>
      obtain ⟨smallest, hsmallest⟩ :=
        Option.ne_none_iff_exists'.mp (mt List.min?_eq_none_iff.mp hsome)
      refine Eq.trans ?_ hsmallest.symm
      simp only [exact, List.min?_eq_some_iff] at h hsmallest ⊢
      exact @first_flatten (· ≤ ·) Int.le_trans _ _ h _ hsmallest
  | average => rfl

end Aggregation

/-! ## Exact rows -/

/-- What a row shows is combined from what rows of another table show in the same column. -/
def Combines (combine : List Int → Option Int) (name : String) (table : Table) (row : List Cell)
    (stages : Table) (parts : List (List Cell)) : Prop :=
  ∃ values : List Int, parts.map (stages.figure? name) = values.map some ∧
    table.figure? name row = combine values

/-- The row of a whole rolls those of its parts up: their tasks are counted together, and every
metric of theirs is combined, but for averages. -/
structure RollsUp (table : Table) (row : List Cell) (stages : Table) (parts : List (List Cell)) :
    Prop where
  count : Combines (fun counts => some (total counts)) "numTasks" table row stages parts
  metrics : ∀ rolled ∈ aggregations, rolled.2 ≠ .average →
    Combines rolled.2.exact (columnName rolled.1 rolled.2) table row stages parts

/-- The row of tasks whose metrics are bounded shows exactly what they are rolled up to. -/
theorem Shows.exact {all : List Task} {table : Table} {row : List Cell} {tasks : List Task}
    (h : Shows all table row tasks) (hbounded : Bounded tasks) (hsub : tasks ⊆ all)
    (hsome : tasks ≠ []) {rolled : TaskMetric × Aggregation} (hmem : rolled ∈ aggregations)
    (hway : rolled.2 ≠ .average) : table.figure? (columnName rolled.1 rolled.2) row =
      rolled.2.exact (tasks.map fun task => task.metrics.get rolled.1) := by
  obtain ⟨x, hx, hcell⟩ := h.metrics rolled hmem
  obtain ⟨metric, way⟩ := rolled
  rw [Table.figure?, hcell]
  have hrounded {n : Int} (hn : n.natAbs < 2 ^ 53)
      (hfigure : figure (Decimal.roundInt? n 1) = .ok x) : x.toInt? = some n := by
    obtain ⟨y, hround, hexact⟩ := Decimal.round_int_exact hn
    rw [hround] at hfigure
    obtain rfl := Except.ok.inj hfigure
    exact hexact
  have hvalue {n : Int} (hn : n ∈ tasks.map fun task => task.metrics.get metric) :
      n.natAbs < 2 ^ 53 := by
    obtain ⟨task, htask, rfl⟩ := List.mem_map.mp hn
    exact hbounded.values task htask metric
  have hvalues : (tasks.map fun task => task.metrics.get metric) ≠ [] := by simpa using hsome
  cases way with
  | sum =>
      have hsum := hbounded.metric_sum hsub metric
      refine hrounded (hbounded.sums metric) ?_
      show figure (Decimal.roundInt? (added metric tasks) 1) = .ok x
      rw [← hsum]
      exact hx
  | max =>
      obtain ⟨largest, hlargest⟩ :=
        Option.ne_none_iff_exists'.mp (mt List.max?_eq_none_iff.mp hvalues)
      simp only [aggregate, hlargest, Option.getD_some] at hx
      exact (hrounded (hvalue (List.max?_mem hlargest)) hx).trans hlargest.symm
  | min =>
      obtain ⟨smallest, hsmallest⟩ :=
        Option.ne_none_iff_exists'.mp (mt List.min?_eq_none_iff.mp hvalues)
      simp only [aggregate, hsmallest, Option.getD_some] at hx
      exact (hrounded (hvalue (List.min?_mem hsmallest)) hx).trans hsmallest.symm
  | average => exact absurd rfl hway

/-! ## Rows of stages -/

/-- The row of an owner is found by the text of its identifier. -/
theorem OwnerRow.owner_iff {kind : String} {all : List Task} {table : Table}
    {group : Int × List Task} {row : List Cell} (h : OwnerRow kind all table group row)
    (owner : Int) :
    table.entry row "ID" = .text (kind ++ "_" ++ Decimal.intText owner) ↔ group.1 = owner := by
  rw [h.owner, Cell.text.injEq, String.append_right_inj]
  exact ⟨Decimal.int_text_injective, congrArg _⟩

/-- The tasks of one stage. -/
theorem tasks_of_singleton (tasks : List Task) (stage : Int) :
    tasksOf tasks [stage] = tasks.filter fun task => task.stage == stage :=
  List.flatMap_singleton _ _

/-- The rows of stages in a table of metrics per stage. -/
def stageRows (stages : Table) (listed : List Int) : List (List Cell) :=
  listed.flatMap fun stage =>
    stages.rowsWith "ID" (.text ("stage" ++ "_" ++ Decimal.intText stage))

/-- A stage that is known has one row if it has tasks, and none otherwise. -/
theorem stage_row {store : Store} {index : Int} {all : List Task} {stages : Table}
    (h : stageTable store index all = .ok stages) {stage : Int}
    (hknown : store.knowsStage stage = true) :
    List.Forall₂ (OwnerRow "stage" all stages)
      (if (tasksOf all [stage]).isEmpty then [] else [(stage, tasksOf all [stage])])
      (stages.rowsWith "ID" (.text ("stage" ++ "_" ++ Decimal.intText stage))) := by
  have hpaired := Table.rows_with_paired (fun _ _ hrow => OwnerRow.owner_iff hrow stage)
    (stage_rows h)
  have htasks : tasksOf (knownTasks store all) [stage] = tasksOf all [stage] :=
    tasks_of_known (by simpa using hknown) all
  have hgroup : tasksOf (knownTasks store all)
      (if stage ∈ (knownTasks store all).map Task.stage then [stage] else []) =
        tasksOf all [stage] := by
    split
    · exact htasks
    · next hmem =>
        rw [← htasks, tasks_of_singleton]
        refine (List.filter_eq_nil_iff.mpr fun task htask hsame => hmem ?_).symm
        exact eq_of_beq hsame ▸ List.mem_map_of_mem htask
  rw [filter_groups, items_of_increasing, hgroup] at hpaired
  exact hpaired

variable {store : Store} {index : Int} {all : List Task} {stages : Table} {listed : List Int}

/-- What the rows of stages show of the tasks of these stages, stage by stage. -/
theorem stage_figures (h : stageTable store index all = .ok stages)
    (hknown : ∀ stage ∈ listed, store.knowsStage stage = true) {name : String}
    {shown : List Task → Option Int}
    (hshown : ∀ stage ∈ listed, ∀ row, tasksOf all [stage] ≠ [] →
      Shows all stages row (tasksOf all [stage]) →
        ∃ n, stages.figure? name row = some n ∧ shown (tasksOf all [stage]) = some n) :
    ∃ (parts : List (List Task)) (values : List Int),
      (stageRows stages listed).map (stages.figure? name) = values.map some ∧
        List.Forall₂ (fun part value => shown part = some value) parts values ∧
        parts.flatten = tasksOf all listed := by
  induction listed with
  | nil => exact ⟨[], [], rfl, .nil, rfl⟩
  | cons stage rest ih =>
      obtain ⟨hstage, hrest⟩ := List.forall_mem_cons.mp hknown
      obtain ⟨hshowsStage, hshowsRest⟩ := List.forall_mem_cons.mp hshown
      -- A stage without tasks has no row, and adds no tasks either.
      obtain ⟨parts, values, hvalues, hparts, hflatten⟩ := ih hrest hshowsRest
      have hrow := stage_row h hstage
      have htasks : tasksOf all (stage :: rest) = tasksOf all [stage] ++ tasksOf all rest := by
        simp [tasksOf]
      rw [stageRows, List.flatMap_cons, List.map_append, htasks]
      split at hrow
      · next hnone =>
          rw [List.forall₂_nil_left_iff.mp hrow, List.isEmpty_iff.mp hnone]
          exact ⟨parts, values, hvalues, hparts, hflatten⟩
      · next hsome =>
          obtain ⟨row, rows, hfirst, hnil, hrows⟩ := List.forall₂_cons_left_iff.mp hrow
          obtain rfl := List.forall₂_nil_left_iff.mp hnil
          obtain ⟨n, hfigure, hn⟩ := hshowsStage row (by simpa using hsome) hfirst.shows
          refine ⟨tasksOf all [stage] :: parts, n :: values, ?_, .cons hn hparts, ?_⟩
          · rw [hrows, List.map_singleton, hfigure]
            exact congrArg (some n :: ·) hvalues
          · rw [List.flatten_cons, hflatten]

/-- A row that shows the tasks of known stages rolls the rows of these stages up. -/
theorem rolls_up (h : stageTable store index all = .ok stages)
    (hknown : ∀ stage ∈ listed, store.knowsStage stage = true)
    (hstages : ∀ stage ∈ listed, Bounded (tasksOf all [stage])) {table : Table} {row : List Cell}
    {tasks : List Task} (hrow : Shows all table row tasks) (hbounded : Bounded tasks)
    (hsome : tasks ≠ []) (hperm : tasks.Perm (tasksOf all listed)) :
    RollsUp table row stages (stageRows stages listed) where
  count := by
    obtain ⟨parts, values, hvalues, hparts, hflatten⟩ :=
      @stage_figures store index all stages listed h hknown "numTasks"
        (fun tasks => some (tasks.length : Int)) fun stage _ row _ hshows =>
          ⟨_, congrArg Cell.whole? hshows.count, rfl⟩
    have hcount : (parts.flatten.length : Int) = total values :=
      Aggregation.total_of_parts rfl (fun _ _ => by rw [List.length_append, Int.natCast_add]) hparts
    refine ⟨values, hvalues, (congrArg Cell.whole? hrow.count).trans (congrArg some ?_)⟩
    rw [hperm.length_eq, ← hflatten, hcount]
  metrics rolled hmem hway := by
    have hsub {tasks : List Task} {listed : List Int} (hperm : tasks.Perm (tasksOf all listed)) :
        tasks ⊆ all := fun task htask => (mem_tasks_of.mp (hperm.mem_iff.mp htask)).1
    obtain ⟨parts, values, hvalues, hparts, hflatten⟩ :=
      @stage_figures store index all stages listed h hknown (columnName rolled.1 rolled.2)
        (fun tasks => rolled.2.exact (tasks.map fun task => task.metrics.get rolled.1))
        fun stage hstage row hsome hshows => by
          obtain ⟨n, hn⟩ := Aggregation.exact_some hway (mt List.map_eq_nil_iff.mp hsome)
          exact ⟨n, (hshows.exact (hstages stage hstage) (hsub (.refl _)) hsome hmem hway).trans hn,
            hn⟩
    refine ⟨values, hvalues, ?_⟩
    calc table.figure? (columnName rolled.1 rolled.2) row
      _ = rolled.2.exact (tasks.map fun task => task.metrics.get rolled.1) :=
        hrow.exact hbounded (hsub hperm) hsome hmem hway
      _ = rolled.2.exact ((tasksOf all listed).map fun task => task.metrics.get rolled.1) :=
        rolled.2.exact_perm (hperm.map _)
      _ = rolled.2.exact (parts.map (List.map fun task => task.metrics.get rolled.1)).flatten := by
        rw [← hflatten, List.map_flatten]
      _ = rolled.2.exact values := rolled.2.exact_flatten (List.forall₂_map_left_iff.mpr hparts)

/-! ## Rows of jobs and queries -/

/-- A table has a row with a key exactly if some stage that is listed has tasks; this row is the
only one, and rolls the rows of these stages up. -/
structure HasRollUp (table : Table) (name : String) (key : Cell) (all : List Task) (stages : Table)
    (listed : List Int) : Prop where
  exists_iff : (∃ row, row ∈ table.rowsWith name key) ↔ ∃ task ∈ all, task.stage ∈ listed
  single : ∀ row ∈ table.rowsWith name key, table.rowsWith name key = [row]
  rolls_up : ∀ row ∈ table.rowsWith name key, RollsUp table row stages (stageRows stages listed)

/-- A table with a row for every group of tasks has the row of an owner. -/
theorem has_roll_up (h : stageTable store index all = .ok stages)
    (hknown : ∀ stage ∈ listed, store.knowsStage stage = true)
    (hstages : ∀ stage ∈ listed, Bounded (tasksOf all [stage]))
    (hbounded : Bounded (tasksOf all listed)) {table : Table} {name : String} {key : Cell}
    {pairs : List (Int × Int)} {owner : Int} {R : Int × List Task → List Cell → Prop}
    (hrows : List.Forall₂ R (groups pairs (knownTasks store all)) table.rows)
    (hkey : ∀ group row, R group row → (table.entry row name = key ↔ group.1 = owner))
    (hshows : ∀ group row, R group row → Shows all table row group.2)
    (hperm : (tasksOf (knownTasks store all) (itemsOf pairs owner)).Perm (tasksOf all listed)) :
    HasRollUp table name key all stages listed := by
  have hpaired := Table.rows_with_paired hkey hrows
  rw [filter_groups] at hpaired
  have htasks : (∃ task ∈ all, task.stage ∈ listed) ↔
      tasksOf (knownTasks store all) (itemsOf pairs owner) ≠ [] := by
    constructor
    · rintro ⟨task, hmem, hstage⟩
      exact List.ne_nil_of_mem (hperm.mem_iff.mpr (mem_tasks_of.mpr ⟨hmem, hstage⟩))
    · intro hsome
      obtain ⟨task, hmem⟩ := List.exists_mem_of_ne_nil _ hsome
      exact ⟨task, mem_tasks_of.mp (hperm.mem_iff.mp hmem)⟩
  split at hpaired
  · next hnone =>
      have hrowsWith := List.forall₂_nil_left_iff.mp hpaired
      refine ⟨?_, ?_, ?_⟩
      · rw [hrowsWith]
        exact iff_of_false (by simp) fun hmem => htasks.mp hmem (List.isEmpty_iff.mp hnone)
      all_goals
        rw [hrowsWith]
        exact fun _ hmem => absurd hmem List.not_mem_nil
  · next hsome =>
      obtain ⟨row, rows, hrow, hnil, hrowsWith⟩ := List.forall₂_cons_left_iff.mp hpaired
      obtain rfl := List.forall₂_nil_left_iff.mp hnil
      have htasksSome := mt List.isEmpty_iff.mpr hsome
      refine ⟨?_, ?_, ?_⟩ <;> rw [hrowsWith]
      · exact iff_of_true ⟨row, List.mem_singleton_self row⟩ (htasks.mpr htasksSome)
      · exact fun other hmem => congrArg (fun row => [row]) (List.mem_singleton.mp hmem).symm
      · intro other hmem
        rw [List.mem_singleton.mp hmem]
        exact rolls_up h hknown hstages (hshows _ _ hrow) (hbounded.perm hperm.symm) htasksSome
          hperm

end Metrics

open Metrics

namespace Analysis

/-- The metrics per job, per stage and per query are answered. The row of a job rolls the rows of
the known stages up that it lists, and the row of a query those of the known stages that any job of
it lists, each stage once; there is such a row exactly if one of these stages has tasks. -/
theorem metrics_roll_up {settings : Settings} {index : Int} {records : List Payload}
    {analysis : Analysis} (h : ofRecords settings index records = .ok analysis)
    (hexact : Exact analysis.store) :
    ∃ jobs stages queries, analysis.ask .jobMetrics = .ok (.table jobs) ∧
      analysis.ask .stageMetrics = .ok (.table stages) ∧
      analysis.ask .queryMetrics = .ok (.table queries) ∧
      (∀ job ∈ analysis.store.jobs.values,
        HasRollUp jobs "ID" (.text ("job_" ++ Decimal.intText job.id)) analysis.store.tasks stages
          (analysis.store.stagesOfJob job)) ∧
      ∀ id, analysis.store.queries.has id = true →
        HasRollUp queries "sqlID" (.int id) analysis.store.tasks stages
          (analysis.store.stagesOfQuery id) := by
  have hlisted := (store_linked h).jobs
  have hask := ask_eq_answer h
  obtain ⟨jobs, hjobs⟩ := job_table_ok hlisted hexact index
  obtain ⟨stages, hstages⟩ := stage_table_ok hexact index
  obtain ⟨queries, hqueries⟩ := query_table_ok hlisted hexact index
  have hknown {listed : List Int} :
      ∀ stage ∈ listed.filter analysis.store.knowsStage, analysis.store.knowsStage stage = true :=
    fun stage hmem => (List.mem_filter.mp hmem).2
  refine ⟨jobs, stages, queries, (hask _).trans (map_eq_ok_iff.mpr ⟨jobs, hjobs, rfl⟩),
    (hask _).trans (map_eq_ok_iff.mpr ⟨stages, hstages, rfl⟩),
    (hask _).trans (map_eq_ok_iff.mpr ⟨queries, hqueries, rfl⟩), fun job hmem => ?_,
    fun id hid => ?_⟩
  · exact has_roll_up hstages hknown
      (fun stage hmem => hexact.stages stage (hknown stage hmem)) (hexact.jobs job hmem)
      (job_rows hjobs) (fun _ _ hrow => OwnerRow.owner_iff hrow job.id)
      (fun _ _ hrow => hrow.shows) (Store.tasks_of_job_perm hlisted hmem _)
  · refine has_roll_up hstages hknown
      (fun stage hmem => hexact.stages stage (hknown stage hmem)) (hexact.queries id hid)
      (query_rows hqueries) (fun group row hrow => ?_) (fun _ _ hrow => hrow.shows)
      (Store.tasks_of_query_perm hlisted hid _)
    rw [hrow.query, Cell.int.injEq]

/-- Two jobs of a query share a stage, one of them lists another stage twice and a stage that is
never submitted. Stages have tasks in both of their attempts, in one, and none; the identifier of
the first task is past the floating-point range. -/
def sharedStages : List Payload :=
  let job (id : Int) (stages : List Int) : Payload :=
    .object
      [ ("Event", .text "SparkListenerJobStart"), ("Job ID", .int id),
        ("Stage IDs", .list (stages.map .int)),
        ("Properties", .object [("spark.sql.execution.id", .int 7)]) ]
  let submission (stage attempt : Int) : Payload :=
    .object
      [ ("Event", .text "SparkListenerStageSubmitted"),
        ("Stage Info",
          .object [("Stage ID", .int stage), ("Stage Attempt ID", .int attempt)]) ]
  let task (id stage attempt finish : Int) : Payload :=
    .object
      [ ("Event", .text "SparkListenerTaskEnd"), ("Stage ID", .int stage),
        ("Stage Attempt ID", .int attempt), ("Task End Reason", .object []),
        ("Task Info", .object
          [("Task ID", .int id), ("Launch Time", .int 5), ("Finish Time", .int finish)]) ]
  [ .object
      [ ("Event", .text "org.apache.spark.sql.execution.ui.SparkListenerSQLExecutionStart"),
        ("executionId", .int 7), ("time", .int 0),
        ("sparkPlanInfo", .object [("nodeName", .text "Project")]) ],
    job 1 [1, 1, 2, 9], job 2 [2, 3], submission 1 0, submission 2 0, submission 2 1,
    submission 3 0, task (10 ^ 400) 1 0 9, task 4 2 0 6, task 5 2 1 8, task 6 9 0 7 ]

/-- Both jobs and the query have their rows, each with the stages that it lists. -/
theorem metrics_roll_up_shared : ∃ analysis jobs stages queries,
    ofRecords {} 1 sharedStages = .ok analysis ∧ Exact analysis.store ∧
      analysis.ask .jobMetrics = .ok (.table jobs) ∧
      analysis.ask .stageMetrics = .ok (.table stages) ∧
      analysis.ask .queryMetrics = .ok (.table queries) ∧
      HasRollUp jobs "ID" (.text "job_1") analysis.store.tasks stages [1, 2] ∧
      HasRollUp jobs "ID" (.text "job_2") analysis.store.tasks stages [2, 3] ∧
      HasRollUp queries "sqlID" (.int 7) analysis.store.tasks stages [1, 2, 3] := by
  have hanswers : (ofRecords {} 1 sharedStages).toOption.any (fun analysis =>
      (TaskMetric.all.all fun metric => magnitude metric analysis.store.tasks < 2 ^ 53) &&
      (analysis.store.jobs.values.any fun job =>
        job.id = 1 && analysis.store.stagesOfJob job = [1, 2]) &&
      (analysis.store.jobs.values.any fun job =>
        job.id = 2 && analysis.store.stagesOfJob job = [2, 3]) &&
      analysis.store.queries.has 7 && analysis.store.stagesOfQuery 7 = [1, 2, 3]) = true := by
    decide +kernel
  simp only [Option.any_eq_true, to_option_eq_some_iff, Bool.and_eq_true, List.all_eq_true,
    List.any_eq_true, decide_eq_true_eq] at hanswers
  obtain ⟨analysis, hanalysis, ⟨⟨⟨hmagnitudes, job, hjob, hid, hlisted⟩, other, hother, hid',
    hlisted'⟩, hquery⟩, hlisted''⟩ := hanswers
  have hexact := exact_of_magnitudes fun metric => hmagnitudes metric (TaskMetric.mem_all metric)
  obtain ⟨jobs, stages, queries, hjobs, hstages, hqueries, hjobRows, hqueryRows⟩ :=
    metrics_roll_up hanalysis hexact
  refine ⟨analysis, jobs, stages, queries, hanalysis, hexact, hjobs, hstages, hqueries, ?_, ?_, ?_⟩
  · have hrow := hjobRows job hjob
    rwa [hid, hlisted] at hrow
  · have hrow := hjobRows other hother
    rwa [hid', hlisted'] at hrow
  · have hrow := hqueryRows 7 hquery
    rwa [hlisted''] at hrow

end Analysis

end SparkLog
