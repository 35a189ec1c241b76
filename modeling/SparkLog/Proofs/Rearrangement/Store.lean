import Mathlib.Data.List.Perm.Basic
import SparkLog.Store.Basic
import SparkLog.Proofs.Keyed
import SparkLog.Proofs.Ingestion.Identifiers

/-!
# Stores that hold the same in another order

Two stores hold the same in another order (`Store.Rearranges`) if what they know once is equal,
their keyed families are equal as finite maps, and their lists are equal up to the order of the
items. Look-ups do not tell such stores apart (`Keyed.Rearranges.find_by`).
-/

namespace SparkLog

namespace Keyed

variable {κ α β : Type} {same : κ → κ → Bool} {table other : Keyed κ α}

/-- The same entries in any order, under keys that are apart: the same finite map. -/
structure Rearranges (same : κ → κ → Bool) (table other : Keyed κ α) : Prop where
  entries : table.entries.Perm other.entries
  apart : table.Apart same

namespace Rearranges

variable (h : table.Rearranges same other)
include h

/-- The keys are the same, but for their order. -/
theorem keys : table.keys.Perm other.keys :=
  h.entries.map Prod.fst

/-- The values are the same, but for their order. -/
theorem values : table.values.Perm other.values :=
  h.entries.map Prod.snd

/-- A change of all values keeps the order of entries as it is. -/
theorem map_values (f : κ → α → β) : (table.mapValues f).Rearranges same (other.mapValues f) where
  entries := h.entries.map _
  apart := h.apart.map_values f

/-- The order of entries may be changed back. -/
theorem symm (hsame : Equivalence fun a b => same a b = true) : other.Rearranges same table where
  entries := h.entries.symm
  apart := h.keys.pairwise h.apart fun {a b} hab => by
    rw [Bool.eq_false_iff] at hab ⊢
    exact fun hba => hab (hsame.symm hba)

/-- What is found under a key does not depend on the order of entries. -/
theorem find_by (hsame : Equivalence fun a b => same a b = true) (key : κ) :
    table.findBy? same key = other.findBy? same key := by
  cases hfound : table.findBy? same key with
  | none =>
      rw [find_by_eq_none_iff] at hfound
      refine (find_by_eq_none_iff.mpr fun entry hmem => ?_).symm
      exact hfound entry (h.entries.mem_iff.mpr hmem)
  | some value =>
      obtain ⟨entry, hmem, hkey, rfl⟩ := mem_of_find_by hfound
      exact ((h.symm hsame).apart.find_by_of_mem hsame (h.entries.mem_iff.mp hmem) hkey).symm

end Rearranges

/-- What is found under a key does not depend on the order of entries. -/
theorem Rearranges.find [BEq κ] [LawfulBEq κ] (h : table.Rearranges (· == ·) other) (key : κ) :
    table.find? key = other.find? key :=
  h.find_by beq_equivalence key

/-- Whether a key is there does not depend on the order of entries. -/
theorem Rearranges.has [BEq κ] [LawfulBEq κ] (h : table.Rearranges (· == ·) other) (key : κ) :
    table.has key = other.has key :=
  congrArg Option.isSome (h.find key)

end Keyed

namespace Store

/-- The same records in another order. -/
structure Rearranges (store other : Store) : Prop where
  finalized : store.finalized = other.finalized
  application : store.application = other.application
  finish : store.finish = other.finish
  version : store.version = other.version
  accelerated : store.accelerated = other.accelerated
  properties : store.properties = other.properties
  executors : store.executors.Rearranges (· == ·) other.executors
  executorRemovals : store.executorRemovals.Perm other.executorRemovals
  blockManagers : store.blockManagers.Rearranges (· == ·) other.blockManagers
  blockManagerRemovals : store.blockManagerRemovals.Perm other.blockManagerRemovals
  profiles : store.profiles.Rearranges (· == ·) other.profiles
  jobs : store.jobs.Rearranges (· == ·) other.jobs
  jobEnds : store.jobEnds.Rearranges (· == ·) other.jobEnds
  stages : store.stages.Rearranges StageKey.agrees other.stages
  completions : store.completions.Rearranges StageKey.agrees other.completions
  tasks : store.tasks.Perm other.tasks
  taskKeys : store.taskKeys.Perm other.taskKeys
  queries : store.queries.Rearranges (· == ·) other.queries
  queryEnds : store.queryEnds.Rearranges (· == ·) other.queryEnds
  plans : store.plans.Rearranges (· == ·) other.plans
  planTexts : store.planTexts.Rearranges (· == ·) other.planTexts
  adaptiveMetrics : store.adaptiveMetrics.Perm other.adaptiveMetrics
  driverUpdates : store.driverUpdates.Perm other.driverUpdates
  accumulables : store.accumulables.Perm other.accumulables
  graphs : store.graphs.Rearranges (· == ·) other.graphs
  metrics : store.metrics.Perm other.metrics
  nodeMetrics : store.nodeMetrics.Perm other.nodeMetrics
  flags : store.flags.Perm other.flags
  unsupported : store.unsupported.Perm other.unsupported
  others : store.others.Perm other.others

/-- No two jobs, stage attempts or tasks have the same identifiers. -/
structure Unambiguous (store : Store) : Prop where
  jobs : (store.jobs.values.map Job.id).Nodup
  stages : (store.stages.values.map fun stage => (stage.id, stage.attempt)).Nodup
  tasks : (store.tasks.map Task.identifiers).Nodup

end Store

end SparkLog
