import Mathlib
import SparkLog.Proofs.Metrics.Figures
import SparkLog.Proofs.Metrics.Groups
import SparkLog.Proofs.Metrics.Rows

/-!
# Metric tables that are answered

The metrics per job, per stage and per query are answered where the metrics of the tasks of every
owner and their sums are below two to the power 53 in magnitude (`job_table_ok`, `stage_table_ok`,
`query_table_ok`).
-/

namespace SparkLog

open Payload

namespace Metrics

/-! ## Bounded metrics -/

/-- The metrics of tasks and their sums are below two to the power 53 in magnitude. -/
structure Bounded (tasks : List Task) : Prop where
  values : ∀ task ∈ tasks, ∀ metric, (task.metrics.get metric).natAbs < 2 ^ 53
  sums : ∀ metric, (added metric tasks).natAbs < 2 ^ 53

/-- Tasks in another order are bounded alike. -/
theorem Bounded.perm {tasks others : List Task} (h : Bounded tasks) (hperm : tasks.Perm others) :
    Bounded others where
  values task hmem := h.values task (hperm.mem_iff.mpr hmem)
  sums metric := added_perm metric hperm ▸ h.sums metric

/-- A bounded sum is not wrapped, whatever the table. -/
theorem Bounded.metric_sum {tasks all : List Task} (h : Bounded tasks) (hsub : tasks ⊆ all)
    (metric : TaskMetric) : metricSum all tasks metric = added metric tasks := by
  refine wrap_added metric hsub ?_
  have hsum := h.sums metric
  simp only [Word.isSigned, Bool.and_eq_true, decide_eq_true_eq]
  simp only [Word.half]
  omega

/-- The magnitudes of a metric of tasks, added up. -/
def magnitude (metric : TaskMetric) (tasks : List Task) : Nat :=
  (tasks.map fun task => (task.metrics.get metric).natAbs).sum

/-- A sum is at most the magnitudes of its terms. -/
theorem added_le_magnitude (metric : TaskMetric) (tasks : List Task) :
    (added metric tasks).natAbs ≤ magnitude metric tasks := by
  rw [added, total_eq_sum, magnitude]
  induction tasks with
  | nil => rfl
  | cons task rest ih =>
      simp only [List.map_cons, List.sum_cons]
      omega

/-- Some of the tasks have no greater magnitudes. -/
theorem magnitude_subperm (metric : TaskMetric) {tasks all : List Task} (hsub : tasks.Subperm all) :
    magnitude metric tasks ≤ magnitude metric all := by
  obtain ⟨sub, hperm, hsublist⟩ := hsub
  rw [magnitude, ← (hperm.map _).sum_eq]
  exact (hsublist.map _).sum_le_sum fun _ _ => Nat.zero_le _

/-- Some of the tasks are bounded where the magnitudes of all of them are. -/
theorem bounded_of_magnitudes {tasks all : List Task}
    (h : ∀ metric, magnitude metric all < 2 ^ 53) (hsub : tasks.Subperm all) : Bounded tasks where
  values task hmem metric := by
    have hone : [task].Subperm all := (List.singleton_sublist.mpr hmem).subperm.trans hsub
    have hle := magnitude_subperm metric hone
    rw [magnitude, List.map_singleton, List.sum_singleton] at hle
    exact Nat.lt_of_le_of_lt hle (h metric)
  sums metric := Nat.lt_of_le_of_lt
    ((added_le_magnitude metric tasks).trans (magnitude_subperm metric hsub)) (h metric)

/-- The metrics of the tasks of every known stage, every job and every query are bounded. -/
structure Exact (store : Store) : Prop where
  stages : ∀ stage, store.knowsStage stage = true → Bounded (tasksOf store.tasks [stage])
  jobs : ∀ job ∈ store.jobs.values, Bounded (tasksOf store.tasks (store.stagesOfJob job))
  queries : ∀ id, store.queries.has id = true →
    Bounded (tasksOf store.tasks (store.stagesOfQuery id))

/-- The metrics of a store are exact where their magnitudes add up to less than two to the power
53. -/
theorem exact_of_magnitudes {store : Store}
    (h : ∀ metric, magnitude metric store.tasks < 2 ^ 53) : Exact store where
  stages _ _ := bounded_of_magnitudes h (tasks_of_subperm _ (List.nodup_singleton _))
  jobs _ _ := bounded_of_magnitudes h (tasks_of_subperm _ ((distinct_nodup _).filter _))
  queries _ _ := bounded_of_magnitudes h (tasks_of_subperm _ ((distinct_nodup _).filter _))

/-- A group of some of all tasks, with bounded metrics. -/
structure Moderate (all tasks : List Task) : Prop where
  some : tasks ≠ []
  subperm : tasks.Subperm all
  bounded : Bounded tasks

section Groups

variable {store : Store} {group : Int × List Task}

/-- A group has bounded metrics if it has the tasks of distinct stages with bounded metrics. -/
theorem moderate_of_perm {pairs : List (Int × Int)} {all : List Task}
    (hmem : group ∈ groups pairs (knownTasks store all)) {listed : List Int} (hnodup : listed.Nodup)
    (hbounded : Bounded (tasksOf all listed))
    (hperm : (tasksOf (knownTasks store all) (itemsOf pairs group.1)).Perm (tasksOf all listed)) :
    Moderate all group.2 := by
  obtain ⟨htasks, hsome⟩ := mem_groups _ _ hmem
  rw [← htasks] at hperm
  exact ⟨hsome, hperm.subperm.trans (tasks_of_subperm all hnodup), hbounded.perm hperm.symm⟩

/-- An owner with tasks is paired with a stage. -/
theorem exists_pair {pairs : List (Int × Int)} {tasks : List Task}
    (hmem : group ∈ groups pairs tasks) : ∃ stage, stage ∈ itemsOf pairs group.1 := by
  obtain ⟨htasks, hsome⟩ := mem_groups _ _ hmem
  refine List.exists_mem_of_ne_nil _ fun hnone => hsome ?_
  rw [htasks, hnone]
  rfl

/-- The groups of jobs have bounded metrics. -/
theorem job_group_moderate (h : store.Listed) (hexact : Exact store)
    (hmem : group ∈ groups store.jobStagePairs (knownTasks store store.tasks)) :
    Moderate store.tasks group.2 := by
  obtain ⟨stage, hstage⟩ := exists_pair hmem
  obtain ⟨pair, hpair, -⟩ := List.mem_map.mp hstage
  obtain ⟨hpair, hid⟩ := List.mem_filter.mp hpair
  obtain ⟨job, hjob, hlisted⟩ := List.mem_flatMap.mp hpair
  obtain ⟨stage, -, rfl⟩ := List.mem_map.mp hlisted
  refine moderate_of_perm hmem ((distinct_nodup _).filter _) (hexact.jobs job hjob) ?_
  rw [← eq_of_beq hid]
  exact Store.tasks_of_job_perm h hjob _

/-- The groups of queries have bounded metrics. -/
theorem query_group_moderate (h : store.Listed) (hexact : Exact store)
    (hmem : group ∈ groups store.queryStagePairs (knownTasks store store.tasks)) :
    Moderate store.tasks group.2 := by
  obtain ⟨stage, hstage⟩ := exists_pair hmem
  have hid := Store.has_of_query_stage h hstage
  exact moderate_of_perm hmem ((distinct_nodup _).filter _) (hexact.queries _ hid)
    (Store.tasks_of_query_perm h hid _)

/-- The groups of stages have bounded metrics. -/
theorem stage_group_moderate (hexact : Exact store)
    (hmem : group ∈ groups
      ((increasing ((knownTasks store store.tasks).map Task.stage)).map fun stage => (stage, stage))
      (knownTasks store store.tasks)) : Moderate store.tasks group.2 := by
  obtain ⟨stage, hstage⟩ := exists_pair hmem
  have hmembers : group.1 ∈ (knownTasks store store.tasks).map Task.stage := by
    by_contra hnone
    rw [items_of_increasing, if_neg hnone] at hstage
    cases hstage
  obtain ⟨task, htask, hid⟩ := List.mem_map.mp hmembers
  have hknown : store.knowsStage group.1 = true := hid ▸ (List.mem_filter.mp htask).2
  refine moderate_of_perm hmem (List.nodup_singleton _) (hexact.stages _ hknown) ?_
  rw [items_of_increasing, if_pos hmembers, tasks_of_known (by simpa using hknown)]

end Groups

/-! ## Answered tables -/

section Tables

variable {all tasks : List Task}

/-- A group with bounded metrics is rolled up. -/
theorem aggregate_row_ok (h : Moderate all tasks) :
    ∃ cells, aggregateRow all tasks = .ok cells := by
  refine map_m_ok fun rolled hmem => ?_
  have hvalues : ∀ value ∈ tasks.map fun task => task.metrics.get rolled.1,
      value.natAbs < 2 ^ 53 := by
    intro value hvalue
    obtain ⟨task, htask, rfl⟩ := List.mem_map.mp hvalue
    exact h.bounded.values task htask rolled.1
  have hsum := h.bounded.metric_sum h.subperm.subset rolled.1
  obtain ⟨x, hx⟩ := aggregate_ok rolled.2 (by simpa using h.some) hvalues
    (show (metricSum all tasks rolled.1).natAbs < 2 ^ 53 from hsum ▸ h.bounded.sums rolled.1)
  exact ⟨.float x, map_eq_ok_iff.mpr ⟨x, hx, rfl⟩⟩

/-- The rows of owners are formed if their groups have bounded metrics. -/
theorem owner_rows_ok (index : Int) (kind : String) (durations : List (Scalar × Option Int))
    {groups : List (Int × List Task)} (hgroups : ∀ group ∈ groups, Moderate all group.2) :
    ∃ rows, ownerRows index kind durations all groups = .ok rows :=
  bind_ok (map_m_ok fun group hmem => aggregate_row_ok (hgroups group hmem)) fun _ _ => ⟨_, rfl⟩

variable {store : Store}

/-- Metrics per job are answered. -/
theorem job_table_ok (h : store.Listed) (hexact : Exact store) (index : Int) :
    ∃ table, jobTable store index store.tasks = .ok table := by
  unfold jobTable
  dsimp only
  split
  · exact ⟨_, rfl⟩
  · exact bind_ok (owner_rows_ok _ _ _ fun group hmem => job_group_moderate h hexact hmem)
      fun rows _ => ⟨_, rfl⟩

/-- Metrics per stage are answered. -/
theorem stage_table_ok (hexact : Exact store) (index : Int) :
    ∃ table, stageTable store index store.tasks = .ok table := by
  unfold stageTable
  dsimp only
  split
  · exact ⟨_, rfl⟩
  · exact bind_ok (owner_rows_ok _ _ _ fun group hmem => stage_group_moderate hexact hmem)
      fun rows _ => ⟨_, rfl⟩

/-- The row of a query is formed. -/
theorem query_row_ok (store : Store) (index id : Int) {all tasks : List Task}
    (h : Moderate all tasks) : ∃ row, queryRow store index all id tasks = .ok row := by
  have hbounded : (metricSum all tasks .cpuTime).natAbs < 2 ^ 53 :=
    h.bounded.metric_sum h.subperm.subset .cpuTime ▸ h.bounded.sums .cpuTime
  exact bind_ok (aggregate_row_ok h) fun _ _ =>
    bind_ok (cpu_share_ok hbounded (metricSum all tasks .runTime)) fun _ _ => ⟨_, rfl⟩

/-- Metrics per query are answered. -/
theorem query_table_ok (h : store.Listed) (hexact : Exact store) (index : Int) :
    ∃ table, queryTable store index store.tasks = .ok table :=
  bind_ok (map_m_ok fun _ hmem => query_row_ok store index _ (query_group_moderate h hexact hmem))
    fun _ _ => ⟨_, rfl⟩

end Tables

end Metrics

end SparkLog
