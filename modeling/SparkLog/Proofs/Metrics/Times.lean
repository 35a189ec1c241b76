import SparkLog.Proofs.Metrics.Groups
import SparkLog.Proofs.Metrics.Rows

/-!
# Processor time and run time of queries

A query metric listing adds the times of the tasks of all known stages of a query. The times of a
query add those of the recorded attempts of these stages, every task once
(`Analysis.query_times_counted`). They differ by the times of tasks of attempts that were not
recorded (`Store.query_times_of_group`).
-/

namespace SparkLog

open Metrics

namespace Store

variable {store : Store}

/-- Whether the attempt that a task is of was recorded. -/
def recordsAttempt (store : Store) (task : Task) : Bool :=
  (store.stage? (.ofInts task.stage task.stageAttempt)).isSome

/-- The sum of a metric over the tasks of a stage whose attempt was recorded. -/
def recordedTime (store : Store) (metric : TaskMetric) (stage : Int) : Int :=
  added metric (store.tasks.filter fun task => task.stage == stage && store.recordsAttempt task)

/-- The sum of a metric over the tasks of the stages of a query whose attempt was not recorded. -/
def missedTime (store : Store) (metric : TaskMetric) (id : Int) : Int :=
  added metric ((tasksOf store.tasks (store.stagesOfQuery id)).filter fun task =>
    !store.recordsAttempt task)

/-! ## Times of attempts -/

/-- The attempt of a task is one of the stage of the task only. -/
theorem stage_agrees_iff {key : StageKey} {stage attempt other : Int}
    (h : key.agrees (.ofInts stage attempt) = true) :
    key.stage.agrees (.int other) = true ↔ stage = other := by
  have hstage : key.stage.canonical = .int stage :=
    of_decide_eq_true (Bool.and_eq_true_iff.mp h).1
  rw [Scalar.agrees, hstage]
  show decide (Scalar.int stage = Scalar.int other) = true ↔ stage = other
  rw [decide_eq_true_eq, Scalar.int.injEq]

/-- The times of a stage are those of its tasks whose attempt was recorded. -/
theorem stage_times_eq (h : store.Linked) (stage : Int) : store.stageTimes stage =
    (store.recordedTime .cpuTime stage, store.recordedTime .runTime stage) := by
  have hsum (metric : TaskMetric) (time : Stage → Int)
      (htime : ∀ entry ∈ store.stages.entries, time entry.2 = store.taskSum metric entry.1) :
      total (((store.stages.entries.filter fun entry => entry.1.stage.agrees (.int stage)).map
        Prod.snd).map time) = store.recordedTime metric stage := by
    have hkeys : ((store.stages.entries.filter fun entry => entry.1.stage.agrees (.int stage)).map
        Prod.snd).map time =
          (store.stages.keys.filter fun key => key.stage.agrees (.int stage)).map
            (store.taskSum metric) := by
      rw [Keyed.keys, List.filter_map, List.map_map, List.map_map]
      exact List.map_congr_left fun entry hmem => htime entry (List.mem_filter.mp hmem).1
    have hapart : (store.stages.keys.filter fun key => key.stage.agrees (.int stage)).Pairwise
        fun key other => ∀ task : Task, key.agrees (.ofInts task.stage task.stageAttempt) = true →
          other.agrees (.ofInts task.stage task.stageAttempt) = false := by
      refine (h.stages.filter _).imp fun hkeys task hof => ?_
      rw [Bool.eq_false_iff]
      intro hother
      have hsame := StageKey.agrees_equivalence.trans hof (StageKey.agrees_equivalence.symm hother)
      exact Bool.eq_false_iff.mp hkeys hsame
    rw [hkeys]
    refine (total_apart metric hapart).trans ?_
    refine congrArg (added metric) (List.filter_congr fun task _ => ?_)
    rw [Bool.eq_iff_iff, Bool.and_eq_true, beq_iff_eq, recordsAttempt, stage?,
      Keyed.find_by_is_some_iff, List.any_eq_true]
    simp only [Keyed.keys, List.mem_filter, List.mem_map]
    constructor
    · rintro ⟨_, ⟨⟨entry, hmem, rfl⟩, hstage⟩, hof⟩
      exact ⟨(stage_agrees_iff hof).mp hstage, entry, hmem, hof⟩
    · rintro ⟨hstage, entry, hmem, hof⟩
      exact ⟨entry.1, ⟨⟨entry, hmem, rfl⟩, (stage_agrees_iff hof).mpr hstage⟩, hof⟩
  rw [stageTimes,
    hsum .cpuTime Stage.cpuTime fun entry hmem => congrArg Prod.fst (h.times entry hmem),
    hsum .runTime Stage.runTime fun entry hmem => congrArg Prod.snd (h.times entry hmem)]

/-! ## Times of queries -/

/-- Times of stages are added to those that are there. -/
theorem fold_stage_times (store : Store) (stages : List Int) (times : Int × Int) :
    stages.foldl (fun (found : Option (Int × Int)) stage =>
        some ((found.getD (0, 0)).1 + (store.stageTimes stage).1,
          (found.getD (0, 0)).2 + (store.stageTimes stage).2)) (some times) =
      some (times.1 + total (stages.map fun stage => (store.stageTimes stage).1),
        times.2 + total (stages.map fun stage => (store.stageTimes stage).2)) := by
  induction stages generalizing times with
  | nil => simp [total]
  | cons stage rest ih =>
      rw [List.foldl_cons, ih]
      simp [total, Int.add_assoc]

/-- The times of a query with known stages are those of these stages. -/
theorem find_query_times (store : Store) (id : Int) : store.queryTimes.find? id =
    if (itemsOf store.queryStagePairs id).isEmpty then none
    else some (
      total ((itemsOf store.queryStagePairs id).map fun stage => (store.stageTimes stage).1),
      total ((itemsOf store.queryStagePairs id).map fun stage => (store.stageTimes stage).2)) := by
  have hstages : store.queryTimes.find? id =
      (itemsOf store.queryStagePairs id).foldl (fun (found : Option (Int × Int)) stage =>
        some ((found.getD (0, 0)).1 + (store.stageTimes stage).1,
          (found.getD (0, 0)).2 + (store.stageTimes stage).2)) none := by
    rw [queryTimes, find_fold_alter, itemsOf, List.foldl_map]
  rw [hstages]
  cases itemsOf store.queryStagePairs id with
  | nil => rfl
  | cons stage rest => simp [fold_stage_times, total]

/-- A query has times once at most. -/
theorem query_times_nodup (store : Store) : store.queryTimes.keys.Nodup :=
  (fold_alter_apart _ _ _ _).nodup

/-- A recorded query has times exactly if a job of it lists a known stage. -/
theorem mem_query_times_iff (h : store.Listed) {id : Int} : id ∈ store.queryTimes.keys ↔
    store.queries.has id = true ∧ ∃ job ∈ store.jobs.values, job.query = some id ∧
      ∃ stage ∈ job.stages, store.knowsStage stage = true := by
  have hpaired : id ∈ store.queryTimes.keys ↔
      ∃ stage, stage ∈ itemsOf store.queryStagePairs id := by
    rw [Keyed.mem_keys_iff, Keyed.has, find_query_times]
    cases itemsOf store.queryStagePairs id with
    | nil => simp
    | cons stage rest => simp
  rw [hpaired]
  constructor
  · rintro ⟨stage, hstage⟩
    have hid := has_of_query_stage h hstage
    obtain ⟨hknown, job, hjob, hquery, hlists⟩ :=
      mem_stages_of_query.mp ((query_stages_perm h hid).mem_iff.mp hstage)
    exact ⟨hid, job, hjob, hquery, stage, hlists, hknown⟩
  · rintro ⟨hid, job, hjob, hquery, stage, hlists, hknown⟩
    refine ⟨stage, (query_stages_perm h hid).mem_iff.mpr (mem_stages_of_query.mpr ?_)⟩
    exact ⟨hknown, job, hjob, hquery, hlists⟩

/-- The tasks of recorded attempts of the stages that the jobs of a query list. -/
def tasksOfQuery (store : Store) (id : Int) : List Task :=
  store.tasks.filter fun task => store.recordsAttempt task ∧
    ∃ job ∈ store.jobs.values, job.query = some id ∧ task.stage ∈ job.stages

/-- The stage of a task whose attempt was recorded is known. -/
theorem knows_stage_of_records {task : Task} (h : store.recordsAttempt task = true) :
    store.knowsStage task.stage = true := by
  obtain ⟨entry, hmem, hof⟩ := Keyed.find_by_is_some_iff.mp h
  exact List.any_eq_true.mpr
    ⟨entry.1, List.mem_map_of_mem hmem, (stage_agrees_iff hof).mpr rfl⟩

/-- The recorded times of the stages of a query are those of its tasks, each counted once. -/
theorem total_recorded_times (store : Store) (metric : TaskMetric) (id : Int) :
    total ((store.stagesOfQuery id).map (store.recordedTime metric)) =
      added metric (store.tasksOfQuery id) := by
  have hapart : (store.stagesOfQuery id).Pairwise fun stage other => ∀ task : Task,
      (task.stage == stage && store.recordsAttempt task) = true →
        (task.stage == other && store.recordsAttempt task) = false := by
    refine (store.stages_of_query_nodup id).imp fun hne task hof => ?_
    obtain rfl := eq_of_beq (Bool.and_eq_true_iff.mp hof).1
    rw [beq_eq_false_iff_ne.mpr hne, Bool.false_and]
  refine (total_apart metric hapart).trans (congrArg (added metric) ?_)
  refine List.filter_congr fun task _ => ?_
  rw [Bool.eq_iff_iff, List.any_eq_true, decide_eq_true_eq]
  constructor
  · rintro ⟨stage, hmem, hof⟩
    obtain ⟨hstage, hrecords⟩ := Bool.and_eq_true_iff.mp hof
    obtain rfl := eq_of_beq hstage
    exact ⟨hrecords, (mem_stages_of_query.mp hmem).2⟩
  · rintro ⟨hrecords, hlists⟩
    have hmem := mem_stages_of_query.mpr ⟨knows_stage_of_records hrecords, hlists⟩
    exact ⟨task.stage, hmem, by rw [beq_self_eq_true, hrecords]; rfl⟩

/-- The times of a query are those of its tasks, each counted once. -/
theorem query_times_added (h : store.Linked) {id : Int} {times : Int × Int}
    (hfound : store.queryTimes.find? id = some times) :
    times = (added .cpuTime (store.tasksOfQuery id), added .runTime (store.tasksOfQuery id)) := by
  have hid : store.queries.has id = true :=
    ((mem_query_times_iff h.jobs).mp (Keyed.mem_keys_iff.mpr (Option.isSome_of_mem hfound))).1
  have hperm := query_stages_perm h.jobs hid
  rw [find_query_times] at hfound
  split at hfound
  · cases hfound
  · obtain rfl := Option.some.inj hfound
    simp only [stage_times_eq h, ← total_recorded_times]
    exact Prod.ext (total_perm (hperm.map _)) (total_perm (hperm.map _))

/-- The recorded and the missed times of a query are all of the times of its tasks. -/
theorem added_stages (store : Store) (metric : TaskMetric) {stages : List Int} {id : Int}
    (hperm : stages.Perm (store.stagesOfQuery id)) : added metric (tasksOf store.tasks stages) =
      total (stages.map (store.recordedTime metric)) + store.missedTime metric id := by
  have htasks : (tasksOf store.tasks stages).Perm (tasksOf store.tasks (store.stagesOfQuery id)) :=
    hperm.flatMap_right _
  have hrecorded : added metric ((tasksOf store.tasks stages).filter store.recordsAttempt) =
      total (stages.map (store.recordedTime metric)) := by
    rw [tasksOf, List.filter_flatMap, added_flat_map]
    refine congrArg total (List.map_congr_left fun stage _ => ?_)
    rw [recordedTime, List.filter_filter]
    exact congrArg (added metric) (List.filter_congr fun task _ => Bool.and_comm _ _)
  rw [added_split metric store.recordsAttempt, hrecorded, missedTime,
    added_perm metric (htasks.filter _)]

/-- The times of a query with tasks, and what is missed of the times of its tasks. -/
theorem query_times_of_group (h : store.Linked) {group : Int × List Task}
    (hgroup : group ∈ groups store.queryStagePairs (knownTasks store store.tasks)) :
    ∃ times, store.queryTimes.find? group.1 = some times ∧
      group.2.Perm (tasksOf store.tasks (store.stagesOfQuery group.1)) ∧
      added .cpuTime group.2 = times.1 + store.missedTime .cpuTime group.1 ∧
      added .runTime group.2 = times.2 + store.missedTime .runTime group.1 := by
  obtain ⟨htasks, hsome⟩ := mem_groups _ _ hgroup
  rw [htasks] at hsome ⊢
  generalize group.1 = id at hsome ⊢
  have hstages : itemsOf store.queryStagePairs id ≠ [] := fun hnone => hsome (by rw [hnone]; rfl)
  obtain ⟨stage, hstage⟩ := List.exists_mem_of_ne_nil _ hstages
  have hid := has_of_query_stage h.jobs hstage
  have hperm := query_stages_perm h.jobs hid
  refine ⟨_, (find_query_times store id).trans (if_neg (by simpa using hstages)),
    tasks_of_query_perm h.jobs hid store.tasks, ?_⟩
  rw [tasks_of_known fun stage hmem => (List.mem_filter.mp (hperm.mem_iff.mp hmem)).2,
    added_stages store _ hperm, added_stages store _ hperm]
  simp only [stage_times_eq h, and_self]

end Store

/-! ## Times that are shown -/

/-- The share of processor time that a listing of queries shows is that of their times. -/
theorem Listing.duration_shares {store : Store} {index : Int} {table : Table}
    (h : queryDurations store index = .ok table) {row : List Cell} (hrow : row ∈ table.rows) :
    ∃ id share, table.entry row "sqlID" = .int id ∧
      cpuShare (.int ((store.queryTimes.find? id).getD (0, 0)).1)
          (.int ((store.queryTimes.find? id).getD (0, 0)).2) = .ok share ∧
      (table.entry row "Executor CPU Time Percent").toPayload =
        (Cell.ofOption .float share).toPayload := by
  obtain ⟨rows, hrows, h⟩ := bind_eq_ok_iff.mp h
  obtain rfl := pure_eq_ok_iff.mp h
  have hpaired := paired_of_map_m hrows
  have hrow' (other : List Cell) (hother : other ∈ rows) : ∃ id share,
      other.getD 2 .missing = .int id ∧
      cpuShare (.int ((store.queryTimes.find? id).getD (0, 0)).1)
          (.int ((store.queryTimes.find? id).getD (0, 0)).2) = .ok share ∧
      other.getD 7 .missing = .ofOption .float share := by
    obtain ⟨entry, -, hentry⟩ := exists_of_paired hpaired hother
    obtain ⟨share, hshare, hcells⟩ := bind_eq_ok_iff.mp hentry
    obtain rfl := pure_eq_ok_iff.mp hcells
    exact ⟨entry.1, share, rfl, hshare, rfl⟩
  have hmade := Table.of_rows_of_mem hrow
  rw [hmade] at hrow ⊢
  obtain ⟨raw, hraw, hsettled⟩ := exists_of_paired Table.rows_settled hrow
  obtain ⟨id, share, hid, hshare, hcell⟩ := hrow' raw hraw
  refine ⟨id, share, ?_, hshare, ?_⟩
  · refine ((hsettled "sqlID" (by decide)).2 fun other hother => ?_).trans hid
    obtain ⟨id, -, hid, -⟩ := hrow' other hother
    exact ⟨id, hid⟩
  · obtain hsame | hsame := (hsettled "Executor CPU Time Percent" (by decide)).1
    · exact congrArg Cell.toPayload (hsame.trans hcell)
    · refine (congrArg Cell.toPayload (hsame.trans (congrArg Cell.toFloat hcell))).trans ?_
      cases share <;> rfl

namespace Analysis

/-- A row of the query metrics shows the times of its query, and what is missed of the times of its
tasks, as the sum of the column holds it. It shows the times themselves if no attempt of a task is
missed and a word with a sign holds them, and then the listing of queries shows the same share. -/
theorem query_times_told {settings : Settings} {index : Int} {records : List Payload}
    {analysis : Analysis} (h : ofRecords settings index records = .ok analysis) {table : Table}
    (htable : analysis.ask .queryMetrics = .ok (.table table)) {row : List Cell}
    (hrow : row ∈ table.rows) :
    ∃ id times, table.entry row "sqlID" = .int id ∧
      analysis.store.queryTimes.find? id = some times ∧
      table.entry row "executorCPUTime" = .int ((sumType analysis.store.tasks .cpuTime).wrap
        (times.1 + analysis.store.missedTime .cpuTime id)) ∧
      table.entry row "executorRunTime" = .int ((sumType analysis.store.tasks .runTime).wrap
        (times.2 + analysis.store.missedTime .runTime id)) ∧
      ((∀ task ∈ tasksOf analysis.store.tasks (analysis.store.stagesOfQuery id),
          analysis.store.recordsAttempt task = true) →
        Word.isSigned times.1 = true → Word.isSigned times.2 = true →
        table.entry row "executorCPUTime" = .int times.1 ∧
          table.entry row "executorRunTime" = .int times.2) ∧
      (table.entry row "executorCPUTime" = .int times.1 →
        table.entry row "executorRunTime" = .int times.2 →
        ∀ durations, analysis.ask .queryDurations = .ok (.table durations) →
          ∀ shown ∈ durations.rows, durations.entry shown "sqlID" = .int id →
            (durations.entry shown "Executor CPU Time Percent").toPayload =
              (table.entry row "executorCPURatio").toPayload) := by
  obtain ⟨queries, hqueries, hreply⟩ := map_eq_ok_iff.mp ((ask_eq_answer h _).symm.trans htable)
  obtain rfl := Reply.table.inj hreply
  obtain ⟨group, hgroup, hshown⟩ := exists_of_paired (query_rows hqueries) hrow
  obtain ⟨times, htimes, hperm, hcpu, hrun⟩ :=
    Store.query_times_of_group (store_linked h) hgroup
  have hsub : group.2 ⊆ analysis.store.tasks := fun task hmem =>
    (mem_tasks_of.mp (hperm.mem_iff.mp hmem)).1
  refine ⟨group.1, times, hshown.query, htimes, ?_, ?_, fun hrecorded hsigned hsigned' => ?_,
    fun hsame hsame' durations hdurations shown hrow' hid => ?_⟩
  · rw [← hcpu]
    exact hshown.cpuTime
  · rw [← hrun]
    exact hshown.runTime
  · have hmissed (metric : TaskMetric) : analysis.store.missedTime metric group.1 = 0 := by
      rw [Store.missedTime,
        List.filter_eq_nil_iff.mpr fun task hmem => by simp [hrecorded task hmem]]
      rfl
    rw [hmissed, Int.add_zero] at hcpu hrun
    rw [hshown.cpuTime, hshown.runTime, wrap_added _ hsub (hcpu ▸ hsigned),
      wrap_added _ hsub (hrun ▸ hsigned'), hcpu, hrun]
    exact ⟨rfl, rfl⟩
  · obtain ⟨listing, hlisting, hreply⟩ :=
      map_eq_ok_iff.mp ((ask_eq_answer h _).symm.trans hdurations)
    obtain rfl := Reply.table.inj hreply
    obtain ⟨id, share, hid', hshare, hcell⟩ := Listing.duration_shares hlisting hrow'
    obtain rfl := Cell.int.inj (hid'.symm.trans hid)
    obtain ⟨other, hother, hratio⟩ := hshown.share
    rw [hshown.cpuTime, Cell.int.injEq] at hsame
    rw [hshown.runTime, Cell.int.injEq] at hsame'
    rw [htimes, Option.getD_some, ← hsame, ← hsame', hother, Except.ok.injEq] at hshare
    rw [hcell, hratio, hshare]

/-- Two jobs of a query list a stage that has a task in each of its two attempts, of which some were
submitted. The tasks are given their run time. -/
def retriedStage (attempts : List Int) (runTime : Int) : List Payload :=
  [ .object
      [ ("Event", .text "org.apache.spark.sql.execution.ui.SparkListenerSQLExecutionStart"),
        ("executionId", .int 7), ("time", .int 0),
        ("sparkPlanInfo", .object [("nodeName", .text "Project")]) ],
    jobStart 1, jobStart 2 ] ++ attempts.map submitted ++ [taskEnd 0 1 5000000, taskEnd 1 2 2000000]
where
  /-- The start of a job of the query. -/
  jobStart (id : Int) : Payload :=
    .object
      [ ("Event", .text "SparkListenerJobStart"), ("Job ID", .int id),
        ("Stage IDs", .list [.int 1]),
        ("Properties", .object [("spark.sql.execution.id", .int 7)]) ]
  /-- The submission of an attempt of the stage. -/
  submitted (attempt : Int) : Payload :=
    .object
      [ ("Event", .text "SparkListenerStageSubmitted"),
        ("Stage Info", .object [("Stage ID", .int 1), ("Stage Attempt ID", .int attempt)]) ]
  /-- The end of a task of an attempt, with its processor time in nanoseconds. -/
  taskEnd (attempt id cpuTime : Int) : Payload :=
    .object
      [ ("Event", .text "SparkListenerTaskEnd"), ("Stage ID", .int 1),
        ("Stage Attempt ID", .int attempt), ("Task End Reason", .object []),
        ("Task Info", .object [("Task ID", .int id)]),
        ("Task Metrics", .object
          [("Executor CPU Time", .int cpuTime), ("Executor Run Time", .int runTime)]) ]

/-- Where both attempts were submitted, the times of the query and the shares are the same. -/
theorem query_times_told_retried : ∃ analysis table durations row shown,
    ofRecords {} 1 (retriedStage [0, 1] 10) = .ok analysis ∧
      analysis.ask .queryMetrics = .ok (.table table) ∧ row ∈ table.rows ∧
      analysis.ask .queryDurations = .ok (.table durations) ∧ shown ∈ durations.rows ∧
      (∀ task ∈ tasksOf analysis.store.tasks (analysis.store.stagesOfQuery 7),
        analysis.store.recordsAttempt task = true) ∧
      table.entry row "sqlID" = .int 7 ∧ analysis.store.queryTimes.find? 7 = some (7, 20) ∧
      table.entry row "executorCPUTime" = .int 7 ∧ table.entry row "executorRunTime" = .int 20 ∧
      (durations.entry shown "Executor CPU Time Percent").toPayload =
        (table.entry row "executorCPURatio").toPayload := by
  have hanswers : (ofRecords {} 1 (retriedStage [0, 1] 10)).toOption.any (fun analysis =>
      (analysis.table? .queryMetrics).any (fun table => table.column "sqlID" = [.int 7]) &&
      (analysis.table? .queryDurations).any (fun table => table.column "sqlID" = [.int 7]) &&
      ((tasksOf analysis.store.tasks (analysis.store.stagesOfQuery 7)).all
        analysis.store.recordsAttempt &&
      analysis.store.queryTimes.find? 7 = some (7, 20))) = true := by
    decide +kernel
  obtain ⟨analysis, hsome, hall⟩ := (Option.any_eq_true _ _).mp hanswers
  simp only [Bool.and_eq_true, decide_eq_true_eq, Option.any_eq_true] at hall
  obtain ⟨⟨⟨table, htableSome, hid⟩, durations, hdurations, hshown⟩, hrecorded, hfound⟩ := hall
  have hanalysis := to_option_eq_some_iff.mp hsome
  have htable := ask_of_table htableSome
  have hask := ask_of_table hdurations
  obtain ⟨row, hrows, hrow⟩ := List.map_eq_singleton_iff.mp hid
  obtain ⟨shown, hshownRows, hshownRow⟩ := List.map_eq_singleton_iff.mp hshown
  have hmem : row ∈ table.rows := hrows ▸ List.mem_singleton_self _
  have hmem' : shown ∈ durations.rows := hshownRows ▸ List.mem_singleton_self _
  obtain ⟨id, times, hrowId, htimes, -, -, hsame, hshares⟩ :=
    query_times_told hanalysis htable hmem
  obtain rfl : id = 7 := Cell.int.inj (hrowId.symm.trans hrow)
  obtain rfl : times = (7, 20) := Option.some.inj (htimes.symm.trans hfound)
  have htasks := List.all_eq_true.mp hrecorded
  obtain ⟨hcpu, hrun⟩ := hsame htasks rfl rfl
  exact ⟨analysis, table, durations, row, shown, hanalysis, htable, hmem, hask, hmem', htasks,
    hrowId, htimes, hcpu, hrun, hshares hcpu hrun durations hask shown hmem' hshownRow⟩

/-- What the query metrics show is more than the times of the query where a task is of an attempt
that was not submitted, and less where its sum is wrapped around. -/
theorem query_times_unrecorded :
    (∃ analysis table, ofRecords {} 1 (retriedStage [0] 10) = .ok analysis ∧
      analysis.ask .queryMetrics = .ok (.table table) ∧
      table.column "sqlID" = [.int 7] ∧
      table.column "executorCPUTime" = [.int 7] ∧ table.column "executorRunTime" = [.int 20] ∧
      analysis.store.queryTimes.find? 7 = some (5, 10)) ∧
    ∃ analysis table, ofRecords {} 1 (retriedStage [0, 1] (2 ^ 62)) = .ok analysis ∧
      analysis.ask .queryMetrics = .ok (.table table) ∧
      table.column "sqlID" = [.int 7] ∧
      table.column "executorCPUTime" = [.int 7] ∧
      table.column "executorRunTime" = [.int (-2 ^ 63)] ∧
      analysis.store.queryTimes.find? 7 = some (7, 2 ^ 63) := by
  have hunrecorded : (ofRecords {} 1 (retriedStage [0] 10)).toOption.any (fun analysis =>
      (analysis.table? .queryMetrics).any fun table =>
        table.column "sqlID" = [.int 7] ∧ table.column "executorCPUTime" = [.int 7] ∧
          table.column "executorRunTime" = [.int 20] ∧
          analysis.store.queryTimes.find? 7 = some (5, 10)) = true := by
    decide +kernel
  have hwrapped : (ofRecords {} 1 (retriedStage [0, 1] (2 ^ 62))).toOption.any (fun analysis =>
      (analysis.table? .queryMetrics).any fun table =>
        table.column "sqlID" = [.int 7] ∧ table.column "executorCPUTime" = [.int 7] ∧
          table.column "executorRunTime" = [.int (-2 ^ 63)] ∧
          analysis.store.queryTimes.find? 7 = some (7, 2 ^ 63)) = true := by
    decide +kernel
  simp only [Option.any_eq_true, decide_eq_true_eq, to_option_eq_some_iff] at hunrecorded hwrapped
  obtain ⟨analysis, hanalysis, table, htable, hshown⟩ := hunrecorded
  obtain ⟨other, hother, wrapped, hwrappedTable, hshown'⟩ := hwrapped
  exact ⟨⟨analysis, table, hanalysis, ask_of_table htable, hshown⟩,
    ⟨other, wrapped, hother, ask_of_table hwrappedTable, hshown'⟩⟩

/-- The times of queries have an entry, and one only, for every recorded query with a job that lists
a known stage. It adds the processor times and the run times of all tasks of recorded attempts whose
stage a job of the query lists, each once. -/
theorem query_times_counted {settings : Settings} {index : Int} {records : List Payload}
    {analysis : Analysis} (h : ofRecords settings index records = .ok analysis) :
    let store := analysis.store
    store.queryTimes.keys.Nodup ∧
      (∀ id, id ∈ store.queryTimes.keys ↔ store.queries.has id = true ∧
        ∃ job ∈ store.jobs.values, job.query = some id ∧
          ∃ stage ∈ job.stages, store.knowsStage stage = true) ∧
      ∀ id ∈ store.queryTimes.keys, store.queryTimes.find? id =
        some (added .cpuTime (store.tasksOfQuery id), added .runTime (store.tasksOfQuery id)) := by
  have hlinked := store_linked h
  refine ⟨Store.query_times_nodup _, fun id => Store.mem_query_times_iff hlinked.jobs,
    fun id hmem => ?_⟩
  obtain ⟨times, htimes⟩ := Option.isSome_iff_exists.mp (Keyed.mem_keys_iff.mp hmem)
  exact htimes.trans (congrArg some (Store.query_times_added hlinked htimes))

/-- Of a stage with two attempts one is submitted. Two jobs of a query list the stage, another one
lists it twice, with a stage that was not submitted, and so does a job of a query that is not
recorded. -/
def relistedStage : List Payload :=
  retriedStage [0] 10 ++ [relisted 3 7 [1, 1, 2], relisted 4 8 [1, 2]]
where
  /-- The start of a job of a query that lists some stages. -/
  relisted (id query : Int) (stages : List Int) : Payload :=
    .object
      [ ("Event", .text "SparkListenerJobStart"), ("Job ID", .int id),
        ("Stage IDs", .list (stages.map .int)),
        ("Properties", .object [("spark.sql.execution.id", .int query)]) ]

/-- Only the recorded query has times, and they are those of the one task of the attempt that was
submitted, which counts once for all jobs that list its stage. -/
theorem query_times_counted_relisted : ∃ analysis,
    ofRecords {} 1 relistedStage = .ok analysis ∧
      analysis.store.jobs.size = 4 ∧ analysis.store.tasks.length = 2 ∧
      analysis.store.queryTimes.keys = [7] ∧
      (analysis.store.tasksOfQuery 7).map Task.id = [1] ∧
      analysis.store.queryTimes.find? 7 = some (5, 10) ∧
      analysis.store.queries.has 8 = false ∧
      ∃ job ∈ analysis.store.jobs.values, job.query = some 8 ∧
        ∃ stage ∈ job.stages, analysis.store.knowsStage stage = true := by
  have hanswers : (ofRecords {} 1 relistedStage).toOption.any (fun analysis =>
      analysis.store.jobs.size = 4 ∧ analysis.store.tasks.length = 2 ∧
        analysis.store.queryTimes.keys = [7] ∧
        (analysis.store.tasksOfQuery 7).map Task.id = [1] ∧
        added .cpuTime (analysis.store.tasksOfQuery 7) = 5 ∧
        added .runTime (analysis.store.tasksOfQuery 7) = 10 ∧
        ∃ job ∈ analysis.store.jobs.values, job.query = some 8 ∧
          ∃ stage ∈ job.stages, analysis.store.knowsStage stage = true) = true := by
    decide +kernel
  simp only [Option.any_eq_true, decide_eq_true_eq, to_option_eq_some_iff] at hanswers
  obtain ⟨analysis, hanalysis, hjobs, htasks, hkeys, hids, hcpu, hrun, hlisted⟩ := hanswers
  obtain ⟨-, hhas, htimes⟩ := query_times_counted hanalysis
  have hfound := htimes 7 (hkeys ▸ List.mem_singleton_self 7)
  rw [hcpu, hrun] at hfound
  refine ⟨analysis, hanalysis, hjobs, htasks, hkeys, hids, hfound, ?_, hlisted⟩
  rw [Bool.eq_false_iff]
  intro hrecorded
  have hmem := (hhas 8).mpr ⟨hrecorded, hlisted⟩
  rw [hkeys] at hmem
  exact absurd hmem (by decide)

end Analysis

end SparkLog
