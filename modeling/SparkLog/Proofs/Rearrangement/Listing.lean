import SparkLog.Inquiry
import SparkLog.Proofs.Rearrangement.Index

/-!
# Answers that do not depend on the order of records

Many inquiries are answered by identifier, in increasing order. Their answers are the same for
stores that hold the same in another order (`Rearranges.ask`), if identifiers tell jobs, stage
attempts and tasks apart.
-/

namespace SparkLog

/-- The inquiries that are answered in an order of their own, in whatever order records came. -/
def Inquiry.ordered : List Inquiry :=
  [ .failedTasks, .failedStages, .failedJobs, .jobInfo, .shuffleSkew, .queryDurations, .details,
    .summary ]

namespace Listing

variable {store other : Store} {settings : Settings} {index : Int}

/-! ## Queries -/

section Queries

variable (h : store.Rearranges other)
include h

/-- Queries come by identifier. -/
theorem sorted_queries_eq : sortedQueries store = sortedQueries other := by
  refine sort_by_keys_of_nodup _ Prod.fst h.queries.entries h.queries.apart.nodup ?_
  intro entry entry' hkeys
  exact (List.cons.inj hkeys).1

/-- The same queries are left out. -/
theorem unsuccessful_queries_eq : unsuccessfulQueries store = unsuccessfulQueries other :=
  increasing_perm (h.jobs.values.filterMap _)

/-- The same queries count. -/
theorem included_queries_eq : includedQueries store = includedQueries other := by
  rw [includedQueries, includedQueries, unsuccessful_queries_eq h, sorted_queries_eq h]

/-- Queries have the same durations and shares of processor time. -/
theorem query_durations_eq : queryDurations store index = queryDurations other index := by
  simp only [queryDurations, Store.applicationId, h.application, h.query_times,
    sorted_queries_eq h]

/-- The details of a qualification are the same. -/
theorem qualification_details_eq :
    qualificationDetails store index = qualificationDetails other index := by
  simp only [qualificationDetails, h.application, h.query_times, included_queries_eq h]

/-- The summary of a qualification is the same. -/
theorem qualification_summary_eq :
    qualificationSummary store index = qualificationSummary other index := by
  simp only [qualificationSummary, h.application, h.query_times, included_queries_eq h]

end Queries

/-! ## Jobs, stage attempts and tasks -/

section Identified

variable (h : store.Rearranges other) (hids : store.Unambiguous)
include h hids

/-- Jobs come by identifier. -/
theorem job_info_eq : jobInfo store index = jobInfo other index := by
  have hsorted := sort_by_keys_of_nodup (fun job => [job.id]) Job.id h.jobs.values hids.jobs
    fun job job' hkeys => (List.cons.inj hkeys).1
  simp only [jobInfo, hsorted]

/-- Failed jobs come by identifier. -/
theorem failed_jobs_eq : failedJobs store settings = failedJobs other settings := by
  have hsorted := sort_selected_of_nodup (fun job => [job.id]) Job.id h.jobs.values hids.jobs
    (fun job job' hkeys => (List.cons.inj hkeys).1) fun job => job.result.any (· != Job.success)
  simp only [failedJobs, hsorted]

/-- Failed stage attempts come by their identifiers. -/
theorem failed_stages_eq : failedStages store settings = failedStages other settings := by
  have hsorted := sort_selected_of_nodup (fun stage => [stage.id, stage.attempt])
    (fun stage => (stage.id, stage.attempt)) h.stages.values hids.stages
    (fun stage stage' hkeys => by simpa using hkeys) fun stage => stage.failure.any (· != "")
  simp only [failedStages, hsorted]

/-- Failed tasks come by their identifiers. -/
theorem failed_tasks_eq : failedTasks store settings = failedTasks other settings := by
  have hsorted := sort_selected_of_nodup
    (fun task => [task.stage, task.stageAttempt, task.id, task.attempt]) Task.identifiers h.tasks
    hids.tasks (fun task task' hkeys => by simpa [Task.identifiers] using hkeys)
    fun task => !task.successful
  simp only [failedTasks, hsorted]

/-! ## Skew -/

end Identified

/-- The pairs of a stage attempt and a task of it. -/
def attemptTasks (store : Store) : List ((Int × Int) × Task) :=
  store.tasks.map fun task => ((task.stage, task.stageAttempt), task)

/-- The stage attempts that have tasks, in increasing order. -/
def attempts (store : Store) : List (Int × Int) :=
  sortByKeys (fun attempt => [attempt.1, attempt.2]) (grouped (attemptTasks store)).keys

/-- The tasks of stage attempts are told by the attempts and the tasks of each. -/
theorem tasks_by_attempt_eq (store : Store) : tasksByAttempt store =
    (attempts store).map fun attempt => (attempt, itemsOf (attemptTasks store) attempt) := by
  have hgrouped : store.tasks.foldl (fun table task =>
      table.alter (task.stage, task.stageAttempt) [] (· ++ [task])) .empty =
        grouped (attemptTasks store) := by
    rw [grouped, attemptTasks, List.foldl_map]
  simp only [tasksByAttempt, hgrouped, grouped_entries, sort_by_keys_map, attempts]

/-- The tasks of a stage attempt are those of the store that belong to it. -/
theorem items_of_attempt (store : Store) (attempt : Int × Int) :
    itemsOf (attemptTasks store) attempt =
      store.tasks.filter fun task => (task.stage, task.stageAttempt) == attempt := by
  simp [itemsOf, attemptTasks, List.filter_map, Function.comp_def]

/-- The skewed tasks of a stage attempt come by identifier. -/
theorem skew_rows_perm {tasks tasks' : List Task} (hperm : tasks.Perm tasks')
    (hids : ∀ task ∈ tasks, ∀ other ∈ tasks,
      [task.id, task.attempt] = [other.id, other.attempt] → task = other) :
    skewRows settings index tasks = skewRows settings index tasks' := by
  have htotal := total_perm (hperm.map fun task => task.metrics.totalBytes)
  simp only [skewRows, htotal, hperm.length_eq, sort_by_keys_perm hperm hids]

/-- The same tasks are skewed. -/
theorem shuffle_skew_eq (h : store.Rearranges other) (hids : store.Unambiguous) :
    shuffleSkew store settings index = shuffleSkew other settings index := by
  have htasks : (attemptTasks store).Perm (attemptTasks other) := h.tasks.map _
  have hattempts : attempts store = attempts other := by
    refine sort_by_keys_perm (keys_grouped_perm htasks) fun attempt _ attempt' _ hkeys => ?_
    simpa [Prod.ext_iff] using hkeys
  have hrows : ∀ attempt, skewRows settings index (itemsOf (attemptTasks store) attempt) =
      skewRows settings index (itemsOf (attemptTasks other) attempt) := by
    intro attempt
    refine skew_rows_perm (items_of_perm htasks attempt) fun task hmem task' hmem' hkeys => ?_
    rw [items_of_attempt, List.mem_filter, beq_iff_eq] at hmem hmem'
    -- Tasks of one attempt differ in what tells them apart within it.
    refine List.inj_on_of_nodup_map hids.tasks hmem.1 hmem'.1 ?_
    have hattempt := hmem.2.trans hmem'.2.symm
    simp only [Prod.mk.injEq, List.cons.injEq] at hattempt hkeys
    simp [Task.identifiers, hattempt, hkeys]
  simp only [shuffleSkew, tasks_by_attempt_eq, hattempts, List.mapM_map, Function.comp_def, hrows]

end Listing

open Listing in
/-- Inquiries that are answered in an order of their own have the same answer for stores that hold
the same in another order. -/
theorem Store.Rearranges.ask {store other : Store} (h : store.Rearranges other)
    (hids : store.Unambiguous) (settings : Settings) (index : Int) (tasks tasks' : List Task)
    {inquiry : Inquiry} (hordered : inquiry ∈ Inquiry.ordered) :
    inquiry.ask store settings index tasks = inquiry.ask other settings index tasks' := by
  have hanswer : inquiry.answer store settings index tasks =
      inquiry.answer other settings index tasks' := by
    simp only [Inquiry.ordered, List.mem_cons, List.not_mem_nil, or_false] at hordered
    obtain rfl | rfl | rfl | rfl | rfl | rfl | rfl | rfl := hordered
    · rw [Inquiry.answer, Inquiry.answer, failed_tasks_eq h hids]
    · rw [Inquiry.answer, Inquiry.answer, failed_stages_eq h hids]
    · rw [Inquiry.answer, Inquiry.answer, failed_jobs_eq h hids]
    · rw [Inquiry.answer, Inquiry.answer, job_info_eq h hids]
    · rw [Inquiry.answer, Inquiry.answer, shuffle_skew_eq h hids]
    · rw [Inquiry.answer, Inquiry.answer, query_durations_eq h]
    · rw [Inquiry.answer, Inquiry.answer, qualification_details_eq h]
    · rw [Inquiry.answer, Inquiry.answer, qualification_summary_eq h]
  rw [Inquiry.ask, Inquiry.ask, h.finalized, hanswer]

end SparkLog
