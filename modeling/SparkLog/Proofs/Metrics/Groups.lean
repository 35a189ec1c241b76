import Mathlib.Algebra.Order.Ring.Int
import Mathlib.Algebra.Order.BigOperators.Group.List
import SparkLog.Metrics.Tables
import SparkLog.Proofs.Derivation.Links
import SparkLog.Proofs.Rearrangement.Index

/-!
# Groups of tasks

A metric table has a group for every owner that is paired with a stage that has tasks
(`filter_groups`): the tasks of the stages of the owner, each stage once. The stages of a job are
the known ones that it lists (`items_of_job_stage_pairs`), the stages of a query are the known ones
that any job of it lists (`query_stages_perm`).
-/

namespace SparkLog

/-! ## Items of a key -/

section Items

variable {κ α β : Type} [BEq κ] [LawfulBEq κ]

omit [LawfulBEq κ] in
/-- The items of a key among those of many things are found thing by thing. -/
theorem items_of_flat_map (things : List α) (items : α → List (κ × β)) (key : κ) :
    itemsOf (things.flatMap items) key = things.flatMap fun thing => itemsOf (items thing) key := by
  simp only [itemsOf, List.filter_flatMap, List.map_flatMap]

/-- All items of a thing are of its key. -/
theorem items_of_own (items : List β) (key : κ) :
    itemsOf (items.map fun item => (key, item)) key = items := by
  simp only [itemsOf, List.filter_map, List.map_map, Function.comp_def, beq_self_eq_true,
    List.filter_true, List.map_id']

/-- No item of a thing is of another key. -/
theorem items_of_other (items : List β) {key other : κ} (hne : other ≠ key) :
    itemsOf (items.map fun item => (other, item)) key = [] := by
  simp [itemsOf, hne]

/-- The items of things under different keys are those of the one thing of the key. -/
theorem items_of_things {things : List α} {key : α → κ} (hkeys : (things.map key).Nodup)
    (items : α → List β) {thing : α} (hmem : thing ∈ things) :
    itemsOf (things.flatMap fun thing => (items thing).map fun item => (key thing, item))
      (key thing) = items thing := by
  rw [items_of_flat_map]
  induction things with
  | nil => cases hmem
  | cons first rest ih =>
      obtain ⟨hfirst, hrest⟩ := List.nodup_cons.mp hkeys
      rw [List.flatMap_cons]
      obtain rfl | hmem := List.mem_cons.mp hmem
      · have hothers : (rest.flatMap fun other =>
            itemsOf ((items other).map fun item => (key other, item)) (key thing)) = [] := by
          refine List.flatMap_eq_nil_iff.mpr fun other hother => items_of_other _ fun hsame => ?_
          exact hfirst (hsame ▸ List.mem_map_of_mem hother)
        rw [items_of_own, hothers, List.append_nil]
      · have hne : key first ≠ key thing := fun hsame =>
          hfirst (hsame ▸ List.mem_map_of_mem hmem)
        rw [items_of_other _ hne, List.nil_append]
        exact ih hrest hmem

end Items

namespace Metrics

/-! ## Tasks of stages -/

/-- The tasks of things that share no task are those of any of them. -/
theorem filter_apart_perm {α : Type} {p : α → Task → Bool} {things : List α}
    (hapart : things.Pairwise fun thing other => ∀ task, p thing task = true → p other task = false)
    (tasks : List Task) : (things.flatMap fun thing => tasks.filter (p thing)).Perm
      (tasks.filter fun task => things.any fun thing => p thing task) := by
  induction things with
  | nil => simp
  | cons thing rest ih =>
      obtain ⟨hthing, hrest⟩ := List.pairwise_cons.mp hapart
      have hfirst : (tasks.filter fun task => (thing :: rest).any fun thing => p thing task).filter
          (p thing) = tasks.filter (p thing) := by
        rw [List.filter_filter]
        refine List.filter_congr fun task _ => ?_
        cases hof : p thing task <;> simp [hof]
      have hothers :
          (tasks.filter fun task => (thing :: rest).any fun thing => p thing task).filter
              (fun task => !p thing task) =
            tasks.filter fun task => rest.any fun thing => p thing task := by
        rw [List.filter_filter]
        refine List.filter_congr fun task _ => ?_
        cases hof : p thing task with
        | false => simp [hof]
        | true =>
            have hnone : (rest.any fun thing => p thing task) = false :=
              List.any_eq_false.mpr fun other hmem =>
                Bool.eq_false_iff.mp (hthing other hmem task hof)
            simp [hnone]
      calc (thing :: rest).flatMap (fun thing => tasks.filter (p thing))
        _ = tasks.filter (p thing) ++ rest.flatMap fun thing => tasks.filter (p thing) :=
          List.flatMap_cons
        List.Perm _ (tasks.filter (p thing) ++
            tasks.filter fun task => rest.any fun thing => p thing task) := (ih hrest).append_left _
        List.Perm _ (tasks.filter fun task => (thing :: rest).any fun thing => p thing task) := by
          rw [← hfirst, ← hothers]
          exact List.filter_append_perm _ _

/-- The tasks of stages, stage by stage. -/
def tasksOf (tasks : List Task) (stages : List Int) : List Task :=
  stages.flatMap fun stage => tasks.filter fun task => task.stage == stage

/-- A task is of stages if its stage is one of them. -/
theorem mem_tasks_of {tasks : List Task} {stages : List Int} {task : Task} :
    task ∈ tasksOf tasks stages ↔ task ∈ tasks ∧ task.stage ∈ stages := by
  simp [tasksOf, and_comm]

/-- Different stages have some of all tasks, each once. -/
theorem tasks_of_subperm (tasks : List Task) {stages : List Int} (hnodup : stages.Nodup) :
    (tasksOf tasks stages).Subperm tasks := by
  have hperm := @filter_apart_perm Int (fun stage task => task.stage == stage) stages
    (hnodup.imp fun hne task hstage => by simpa [eq_of_beq hstage] using hne) tasks
  exact hperm.subperm.trans List.filter_sublist.subperm

/-- Known stages have the same tasks among those of known stages. -/
theorem tasks_of_known {store : Store} {stages : List Int}
    (h : ∀ stage ∈ stages, store.knowsStage stage = true) (tasks : List Task) :
    tasksOf (knownTasks store tasks) stages = tasksOf tasks stages := by
  refine List.flatMap_congr fun stage hmem => ?_
  rw [knownTasks, List.filter_filter]
  refine List.filter_congr fun task _ => ?_
  by_cases hstage : task.stage = stage
  · simp [hstage, h stage hmem]
  · simp [hstage]

/-! ## Sums of a metric -/

/-- The sum of a metric over tasks. -/
def added (metric : TaskMetric) (tasks : List Task) : Int :=
  total (tasks.map fun task => task.metrics.get metric)

section Sums

variable (metric : TaskMetric) {tasks others : List Task}

/-- A sum does not depend on the order of tasks. -/
theorem added_perm (hperm : tasks.Perm others) : added metric tasks = added metric others :=
  total_perm (hperm.map _)

/-- Sums of parts are added. -/
theorem added_append (tasks others : List Task) :
    added metric (tasks ++ others) = added metric tasks + added metric others := by
  simp only [added, total_eq_sum, List.map_append, List.sum_append]

/-- A sum is that over the tasks with a property and that over the others. -/
theorem added_split (p : Task → Bool) (tasks : List Task) : added metric tasks =
    added metric (tasks.filter p) + added metric (tasks.filter fun task => !p task) := by
  rw [← added_append]
  exact added_perm metric (List.filter_append_perm p tasks).symm

/-- The sum over the tasks of things, one after the other. -/
theorem added_flat_map {α : Type} (things : List α) (tasks : α → List Task) :
    added metric (things.flatMap tasks) =
      total (things.map fun thing => added metric (tasks thing)) := by
  induction things with
  | nil => rfl
  | cons thing rest ih => rw [List.flatMap_cons, added_append, ih, List.map_cons, total]

/-- Sums over the tasks of things that share no task are a sum over the tasks of all of them. -/
theorem total_apart {α : Type} {p : α → Task → Bool} {things : List α}
    (hapart : things.Pairwise fun thing other =>
      ∀ task, p thing task = true → p other task = false) :
    total (things.map fun thing => added metric (tasks.filter (p thing))) =
      added metric (tasks.filter fun task => things.any fun thing => p thing task) := by
  rw [← added_flat_map]
  exact added_perm metric (filter_apart_perm hapart tasks)

/-- A sum that a word with a sign holds is not wrapped, whatever the table. -/
theorem wrap_added {all : List Task} (hsub : tasks ⊆ all)
    (hfits : Word.isSigned (added metric tasks) = true) :
    metricSum all tasks metric = added metric tasks := by
  have hlow : sumType all metric = .unsigned → 0 ≤ added metric tasks := by
    intro htype
    have hall : ∀ task ∈ all, 0 ≤ task.metrics.get metric := by
      unfold sumType SumType.ofValues at htype
      split at htype
      · cases htype
      · split at htype
        · next hunsigned =>
            intro task hmem
            have hfit := List.all_eq_true.mp hunsigned _ (List.mem_map_of_mem hmem)
            exact of_decide_eq_true (Bool.and_eq_true_iff.mp hfit).1
        · cases htype
    rw [added, total_eq_sum]
    refine List.sum_nonneg fun value hvalue => ?_
    obtain ⟨task, hmem, rfl⟩ := List.mem_map.mp hvalue
    exact hall task (hsub hmem)
  show (sumType all metric).wrap (added metric tasks) = added metric tasks
  generalize added metric tasks = sum at hfits hlow ⊢
  simp only [Word.isSigned, Bool.and_eq_true, decide_eq_true_eq] at hfits
  simp only [Word.half] at hfits
  cases htype : sumType all metric with
  | signed =>
      simp only [SumType.wrap, Word.wrapSigned]
      exact Int.bmod_eq_of_le (by omega) (by omega)
  | unsigned =>
      have hnonneg := hlow htype
      simp only [SumType.wrap, Word.wrapUnsigned, Word.count]
      exact Int.emod_eq_of_lt hnonneg (by omega)
  | unbounded => rfl

end Sums

/-! ## Groups of owners -/

variable (pairs : List (Int × Int)) (tasks : List Task)

/-- The groups of tasks are those of the owners with tasks. -/
theorem groups_eq : groups pairs tasks =
    ((increasing (pairs.map Prod.fst)).map fun owner =>
      (owner, tasksOf tasks (itemsOf pairs owner))).filter fun group => !group.2.isEmpty := by
  simp only [groups, tasksOf, itemsOf, List.flatMap_map]

/-- A group has the tasks of the stages that its owner is paired with. -/
theorem mem_groups {group : Int × List Task} (hmem : group ∈ groups pairs tasks) :
    group.2 = tasksOf tasks (itemsOf pairs group.1) ∧ group.2 ≠ [] := by
  rw [groups_eq, List.mem_filter, List.mem_map] at hmem
  obtain ⟨⟨owner, -, rfl⟩, hsome⟩ := hmem
  exact ⟨rfl, by simpa using hsome⟩

/-- An integer is once among the distinct ones, or not at all. -/
theorem filter_increasing (items : List Int) (n : Int) :
    ((increasing items).filter fun other => other == n) = if n ∈ items then [n] else [] := by
  have hnodup : (increasing items).Nodup :=
    (increasing_sorted _).imp fun hlt => Int.ne_of_lt hlt
  rw [List.filter_beq]
  split
  · next hmem =>
      rw [List.count_eq_one_of_mem hnodup (mem_increasing.mpr hmem)]
      rfl
  · next hmem =>
      rw [List.count_eq_zero_of_not_mem (mt mem_increasing.mp hmem)]
      rfl

/-- An integer is paired with itself once if it is among those that are, and not at all
otherwise. -/
theorem items_of_increasing (items : List Int) (n : Int) :
    itemsOf ((increasing items).map fun other => (other, other)) n =
      if n ∈ items then [n] else [] := by
  rw [← filter_increasing]
  simp [itemsOf, List.filter_map, Function.comp_def]

/-- An owner has one group if its stages have tasks, and none otherwise. -/
theorem filter_groups (owner : Int) :
    ((groups pairs tasks).filter fun group => group.1 == owner) =
      if (tasksOf tasks (itemsOf pairs owner)).isEmpty then []
      else [(owner, tasksOf tasks (itemsOf pairs owner))] := by
  have hnone (h : owner ∉ pairs.map Prod.fst) : itemsOf pairs owner = [] := by
    rw [itemsOf, List.map_eq_nil_iff, List.filter_eq_nil_iff]
    intro pair hmem hsame
    exact h (eq_of_beq hsame ▸ List.mem_map_of_mem hmem)
  rw [groups_eq, List.filter_filter, List.filter_congr fun _ _ => Bool.and_comm _ _,
    ← List.filter_filter, List.filter_map]
  simp only [Function.comp_def]
  rw [filter_increasing]
  split
  · next hmem =>
      rw [List.map_singleton, List.filter_singleton]
      cases (tasksOf tasks (itemsOf pairs owner)).isEmpty <;> rfl
  · next hmem =>
      rw [hnone hmem]
      rfl

end Metrics

namespace Store

variable {store : Store}

/-- The stages of a job are the known ones that it lists. -/
theorem items_of_job_stage_pairs (h : store.Listed) {job : Job} (hmem : job ∈ store.jobs.values) :
    itemsOf store.jobStagePairs job.id = job.stages.filter store.knowsStage := by
  have hids : (store.jobs.values.map Job.id).Nodup := by
    have hkeys : store.jobs.values.map Job.id = store.jobs.keys := by
      rw [Keyed.values, Keyed.keys, List.map_map]
      exact List.map_congr_left h.ids
    rw [hkeys]
    exact h.apart.nodup
  exact items_of_things hids (fun job => job.stages.filter store.knowsStage) hmem

/-- The known stages that a job lists, each once. -/
def stagesOfJob (store : Store) (job : Job) : List Int :=
  (distinct job.stages).filter store.knowsStage

/-- The group of a job has the tasks of the known stages that it lists. -/
theorem tasks_of_job_perm (h : store.Listed) {job : Job} (hmem : job ∈ store.jobs.values)
    (tasks : List Task) :
    (Metrics.tasksOf (Metrics.knownTasks store tasks) (itemsOf store.jobStagePairs job.id)).Perm
      (Metrics.tasksOf tasks (store.stagesOfJob job)) := by
  have hnodup : job.stages.Nodup := by
    obtain ⟨entry, hentry, rfl⟩ := List.mem_map.mp hmem
    exact h.stages entry hentry
  have hperm : job.stages.Perm (distinct job.stages) :=
    (List.perm_ext_iff_of_nodup hnodup (distinct_nodup _)).mpr fun stage => mem_distinct.symm
  rw [items_of_job_stage_pairs h hmem,
    Metrics.tasks_of_known fun stage hstage => (List.mem_filter.mp hstage).2]
  exact (hperm.filter _).flatMap_right _

/-- A job is found under its identifier. -/
theorem find_job (h : store.Listed) {job : Job} (hmem : job ∈ store.jobs.values) :
    store.jobs.find? job.id = some job := by
  obtain ⟨entry, hentry, rfl⟩ := List.mem_map.mp hmem
  exact h.apart.find_by_of_mem beq_equivalence hentry (beq_iff_eq.mpr (h.ids entry hentry).symm)

/-- The jobs that list a stage. -/
theorem mem_items_of_listings {stage id : Int} : id ∈ itemsOf store.listings stage ↔
    ∃ job ∈ store.jobs.values, stage ∈ job.stages ∧ job.id = id := by
  simp [itemsOf, listings, and_assoc]

/-- A stage has the queries of the jobs that list it. -/
theorem mem_queries_of_listings (h : store.Listed) {stage id : Int} :
    id ∈ store.queriesOfJobs (itemsOf store.listings stage) ↔
      ∃ job ∈ store.jobs.values, stage ∈ job.stages ∧ job.query = some id := by
  rw [queriesOfJobs, mem_distinct, List.mem_filterMap]
  simp only [mem_items_of_listings]
  constructor
  · rintro ⟨_, ⟨job, hmem, hlists, rfl⟩, hquery⟩
    rw [find_job h hmem] at hquery
    exact ⟨job, hmem, hlists, hquery⟩
  · rintro ⟨job, hmem, hlists, hquery⟩
    refine ⟨job.id, ⟨job, hmem, hlists, rfl⟩, ?_⟩
    rw [find_job h hmem]
    exact hquery

/-- A stage has the recorded queries of the jobs that list it, if it is known. -/
theorem mem_recorded_queries (h : store.Listed) {stage id : Int} :
    id ∈ store.recordedQueries stage ↔ store.knowsStage stage = true ∧ store.queries.has id = true ∧
      ∃ job ∈ store.jobs.values, stage ∈ job.stages ∧ job.query = some id := by
  rw [recordedQueries]
  split
  · next hknown =>
      simp only [List.mem_filter, mem_queries_of_listings h, hknown, true_and, and_comm]
  · next hunknown => simp [hunknown]

/-- A query is paired once with a stage that has it. -/
theorem items_of_recorded (store : Store) (stage id : Int) :
    itemsOf ((store.recordedQueries stage).map fun query => (query, stage)) id =
      if (store.recordedQueries stage).contains id then [stage] else [] := by
  have hnodup : (store.recordedQueries stage).Nodup := by
    rw [recordedQueries]
    split
    · exact (distinct_nodup _).filter _
    · exact .nil
  rw [itemsOf, List.filter_map, List.map_map]
  simp only [Function.comp_def, List.filter_beq, List.contains_eq_mem, decide_eq_true_eq]
  split
  · next hmem =>
      rw [List.count_eq_one_of_mem hnodup hmem]
      rfl
  · next hmem =>
      rw [List.count_eq_zero_of_not_mem hmem]
      rfl

/-- The known stages that the jobs of a query list, each once. -/
def stagesOfQuery (store : Store) (id : Int) : List Int :=
  (distinct ((store.jobs.values.filter fun job => job.query == some id).flatMap Job.stages)).filter
    store.knowsStage

/-- The stages of a query are the known ones that a job of it lists. -/
theorem mem_stages_of_query {id stage : Int} : stage ∈ store.stagesOfQuery id ↔
    store.knowsStage stage = true ∧
      ∃ job ∈ store.jobs.values, job.query = some id ∧ stage ∈ job.stages := by
  rw [stagesOfQuery, List.mem_filter, mem_distinct, List.mem_flatMap, and_comm]
  simp only [List.mem_filter, beq_iff_eq, and_assoc]

/-- The stages of a query come once each. -/
theorem stages_of_query_nodup (store : Store) (id : Int) : (store.stagesOfQuery id).Nodup :=
  (distinct_nodup _).filter _

/-- A query is paired with the listed stages that it was recorded for. -/
theorem items_of_query_stage_pairs (store : Store) (id : Int) : itemsOf store.queryStagePairs id =
    (grouped store.listings).keys.filter fun stage =>
      (store.recordedQueries stage).contains id := by
  rw [query_stage_pairs_eq, items_of_flat_map]
  induction (grouped store.listings).keys with
  | nil => rfl
  | cons stage stages ih =>
      rw [List.flatMap_cons, ih, List.filter_cons, items_of_recorded]
      split <;> rfl

/-- The stages that a recorded query is paired with are those of its jobs. -/
theorem query_stages_perm (h : store.Listed) {id : Int} (hid : store.queries.has id = true) :
    (itemsOf store.queryStagePairs id).Perm (store.stagesOfQuery id) := by
  have hnodup : (itemsOf store.queryStagePairs id).Nodup := by
    rw [items_of_query_stage_pairs]
    exact (grouped_apart store.listings).nodup.filter _
  refine (List.perm_ext_iff_of_nodup hnodup (store.stages_of_query_nodup id)).mpr fun stage => ?_
  rw [items_of_query_stage_pairs, List.mem_filter, List.contains_eq_mem, decide_eq_true_eq,
    mem_recorded_queries h, mem_keys_grouped, mem_stages_of_query]
  constructor
  · rintro ⟨-, hknown, -, job, hmem, hlists, hquery⟩
    exact ⟨hknown, job, hmem, hquery, hlists⟩
  · rintro ⟨hknown, job, hmem, hquery, hlists⟩
    refine ⟨⟨(stage, job.id), ?_, rfl⟩, hknown, hid, job, hmem, hlists, hquery⟩
    exact List.mem_flatMap.mpr ⟨job, hmem, List.mem_map_of_mem hlists⟩

/-- Only recorded queries are paired with stages. -/
theorem has_of_query_stage (h : store.Listed) {id stage : Int}
    (hmem : stage ∈ itemsOf store.queryStagePairs id) : store.queries.has id = true := by
  obtain ⟨pair, hpair, rfl⟩ := List.mem_map.mp hmem
  obtain ⟨hpair, hid⟩ := List.mem_filter.mp hpair
  rw [query_stage_pairs_eq] at hpair
  obtain ⟨stage, -, hstage⟩ := List.mem_flatMap.mp hpair
  obtain ⟨query, hquery, rfl⟩ := List.mem_map.mp hstage
  obtain rfl := eq_of_beq hid
  exact ((mem_recorded_queries h).mp hquery).2.1

/-- The group of a query has the tasks of the known stages that its jobs list. -/
theorem tasks_of_query_perm (h : store.Listed) {id : Int} (hid : store.queries.has id = true)
    (tasks : List Task) :
    (Metrics.tasksOf (Metrics.knownTasks store tasks) (itemsOf store.queryStagePairs id)).Perm
      (Metrics.tasksOf tasks (store.stagesOfQuery id)) := by
  have hperm := query_stages_perm h hid
  rw [Metrics.tasks_of_known fun stage hmem => (List.mem_filter.mp (hperm.mem_iff.mp hmem)).2]
  exact hperm.flatMap_right _

end Store

end SparkLog
