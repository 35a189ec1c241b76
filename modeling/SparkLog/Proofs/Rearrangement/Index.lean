import SparkLog.Store.Index
import SparkLog.Proofs.Rearrangement.Grouping
import SparkLog.Proofs.Rearrangement.Sorting
import SparkLog.Proofs.Rearrangement.Store

/-!
# Indexes over records in any order

Which stages belong to which queries, and the times of queries, are the same for stores that hold
the same in another order: pairs of a query and a stage come in another order
(`Rearranges.query_stage_pairs`), and the times of a query are added up in another order
(`Rearranges.query_times`).
-/

namespace SparkLog.Store

variable {store other : Store}

/-! ## Queries and stages -/

/-- The pairs of a stage and a job that lists it, in order of arrival of the jobs. -/
def listings (store : Store) : List (Int × Int) :=
  store.jobs.values.flatMap fun job => job.stages.map fun stage => (stage, job.id)

/-- The jobs of stages are grouped by stage. -/
theorem jobs_of_stages_eq (store : Store) : store.jobsOfStages = grouped store.listings := by
  rw [grouped, listings, List.foldl_flatMap]
  simp only [List.foldl_map]
  rfl

/-- The recorded queries of a known stage, none of a stage that is not known. -/
def recordedQueries (store : Store) (stage : Int) : List Int :=
  if store.knowsStage stage then
    (store.queriesOfJobs (itemsOf store.listings stage)).filter store.queries.has
  else []

/-- The pairs of a query and a stage are told by the listings, stage by stage. -/
theorem query_stage_pairs_eq (store : Store) :
    store.queryStagePairs = (grouped store.listings).keys.flatMap fun stage =>
      (store.recordedQueries stage).map fun query => (query, stage) := by
  rw [queryStagePairs, queriesOfStages, jobs_of_stages_eq, grouped_entries]
  induction (grouped store.listings).keys with
  | nil => rfl
  | cons stage stages ih =>
      rw [List.flatMap_cons, ← ih, recordedQueries]
      simp only [List.map_cons, List.filter_cons]
      -- A stage whose jobs have no query is left out, and would add no pair.
      cases hqueries : store.queriesOfJobs (itemsOf store.listings stage) <;>
        cases hknown : store.knowsStage stage <;> simp [hknown]

namespace Rearranges

variable (h : store.Rearranges other)
include h

/-- Jobs list the same stages. -/
theorem listings : store.listings.Perm other.listings :=
  h.jobs.values.flatMap_right _

/-- The same stages are known. -/
theorem knows_stage : store.knowsStage = other.knowsStage := by
  funext stage
  exact h.stages.keys.any_eq

/-- Jobs have the same queries. -/
theorem queries_of_jobs {jobs jobs' : List Int} (hperm : jobs.Perm jobs') :
    (store.queriesOfJobs jobs).Perm (other.queriesOfJobs jobs') := by
  have hfind : store.jobs.find? = other.jobs.find? := funext h.jobs.find
  rw [queriesOfJobs, queriesOfJobs, hfind]
  exact distinct_perm fun query => (hperm.filterMap _).mem_iff

/-- Stages have the same recorded queries. -/
theorem recorded_queries (stage : Int) :
    (store.recordedQueries stage).Perm (other.recordedQueries stage) := by
  have hhas : store.queries.has = other.queries.has := funext h.queries.has
  rw [recordedQueries, recordedQueries, h.knows_stage, hhas]
  split
  · exact (h.queries_of_jobs (items_of_perm h.listings stage)).filter _
  · exact .nil

/-- The same stages belong to the same queries. -/
theorem query_stage_pairs : store.queryStagePairs.Perm other.queryStagePairs := by
  rw [query_stage_pairs_eq, query_stage_pairs_eq]
  exact (keys_grouped_perm h.listings).flatMap fun stage _ => (h.recorded_queries stage).map _

/-! ## Times -/

/-- The times of a stage are added up to the same. -/
theorem stage_times : store.stageTimes = other.stageTimes := by
  funext stage
  have hattempts := (h.stages.entries.filter fun entry => entry.1.stage.agrees (.int stage)).map
    Prod.snd
  simp only [stageTimes, total_perm (hattempts.map Stage.cpuTime),
    total_perm (hattempts.map Stage.runTime)]

/-- Queries have the same times. -/
theorem query_times : store.queryTimes.find? = other.queryTimes.find? := by
  funext query
  rw [queryTimes, queryTimes, h.stage_times, find_fold_alter, find_fold_alter]
  refine (h.query_stage_pairs.filter _).foldl_eq' (fun pair _ pair' _ times => ?_) none
  simp only [Option.getD_some, Option.some.injEq, Prod.mk.injEq]
  omega

end Rearranges

end SparkLog.Store
