import SparkLog.Proofs.Derivation.Counting
import SparkLog.Proofs.Ingestion.Identifiers
import SparkLog.Proofs.Ingestion.Runs

/-!
# How the records of an analysed store hang together

In a session, jobs are under their own identifiers and list a stage once (`Session.run_listed`). In
an analysed store, whatever its settings, no two stage attempts are the same either, and the times
of a stage attempt are those of its tasks (`Analysis.store_linked`).
-/

namespace SparkLog

namespace Store

/-- Jobs are under their own identifiers, each once, and list a stage once. -/
structure Listed (store : Store) : Prop where
  apart : store.jobs.Apart (· == ·)
  ids : ∀ entry ∈ store.jobs.entries, entry.2.id = entry.1
  stages : ∀ entry ∈ store.jobs.entries, entry.2.stages.Nodup

variable {store derived : Store}

/-- The empty store lists no jobs. -/
theorem listed_empty : ({} : Store).Listed where
  apart := .nil
  ids := by simp [Keyed.empty]
  stages := by simp [Keyed.empty]

/-- A job that an event starts has the identifier of the event, and lists a stage once. -/
theorem job_told {content : EventContent} {id : Int} {job : Job}
    (h : content.job? = some (id, .ok job)) : job.id = id ∧ job.stages.Nodup := by
  cases content with
  | jobStart =>
      obtain ⟨rfl, hread⟩ := Prod.mk.inj (Option.some.inj h)
      obtain ⟨query, -, rfl⟩ := map_eq_ok_iff.mp hread
      refine ⟨rfl, ?_⟩
      rw [← distinct_eq_erase_dups]
      exact distinct_nodup _
  | _ => cases h

/-- Every event keeps the jobs of a store listed. -/
theorem apply_listed (settings : Settings) (store : Store) (event : Event) (h : store.Listed) :
    (store.apply settings event).1.Listed := by
  have hsame (hstays : (store.apply settings event).1.jobs = store.jobs) :
      (store.apply settings event).1.Listed :=
    ⟨hstays ▸ h.apart, hstays ▸ h.ids, hstays ▸ h.stages⟩
  have hentered := @jobs_entered settings store event
  cases hjob : event.content.job? with
  | none =>
      rw [hjob] at hentered
      exact hsame hentered
  | some told =>
      obtain ⟨id, record⟩ := told
      rw [hjob] at hentered
      obtain ⟨hstays, -⟩ | ⟨-, -, job, rfl, hafter⟩ := hentered
      · exact hsame hstays
      · obtain ⟨hid, hstages⟩ := job_told hjob
        have hentry : ∀ entry ∈ (store.apply settings event).1.jobs.entries,
            entry.2.id = entry.1 ∧ entry.2.stages.Nodup := by
          intro entry hmem
          rw [hafter] at hmem
          obtain hold | rfl | ⟨old, hold, hkey, rfl⟩ := Keyed.mem_insert_by hmem
          · exact ⟨h.ids entry hold, h.stages entry hold⟩
          · exact ⟨hid, hstages⟩
          · exact ⟨hid.trans (eq_of_beq hkey).symm, hstages⟩
        refine ⟨?_, fun entry hmem => (hentry entry hmem).1,
          fun entry hmem => (hentry entry hmem).2⟩
        rw [hafter]
        exact h.apart.insert_by id job

/-! ## Analysed stores -/

/-- Closing a job keeps its stages. -/
theorem close_job_stages (store : Store) (id : Int) (job : Job) :
    (store.closeJob id job).1.stages = job.stages := by
  unfold closeJob
  split
  · exact write_duration_same Job.stages fun _ _ => rfl
  · rfl

/-- Correlation keeps the jobs of a store listed, whether it gets through or not. -/
theorem Listed.correlate (h : store.Listed) : store.correlate.1.Listed := by
  have hentry : ∀ entry ∈ store.correlateJobs.1.jobs.entries,
      entry.2.id = entry.1 ∧ entry.2.stages.Nodup := by
    intro entry hmem
    obtain ⟨job, hjob, hvalue⟩ := @mem_change_entries _ _ store.closeJob _ _ hmem
    have hid : job.id = entry.1 := h.ids _ hjob
    have hstages : job.stages.Nodup := h.stages _ hjob
    obtain hvalue | hvalue := hvalue
    · rw [hvalue]
      exact ⟨hid, hstages⟩
    · rw [hvalue, close_job_id, close_job_stages]
      exact ⟨hid, hstages⟩
  have hapart : store.correlateJobs.1.jobs.Apart (· == ·) := by
    have hkeys : store.correlateJobs.1.jobs.keys = store.jobs.keys :=
      keys_change_entries store.closeJob store.jobs.entries
    rw [Keyed.Apart, hkeys]
    exact h.apart
  have hjobs : store.correlateJobs.1.Listed :=
    ⟨hapart, fun entry hmem => (hentry entry hmem).1, fun entry hmem => (hentry entry hmem).2⟩
  -- Nothing that comes behind the jobs changes them.
  have hstages (after : Store) (h : after.Listed) : after.correlateStages.1.Listed := { h with }
  have hqueries (after : Store) (h : after.Listed) : after.correlateQueries.1.Listed := { h with }
  have happlication (after : Store) (h : after.Listed) :
      after.correlateApplication.1.Listed := by
    rw [correlate_application_eq]
    exact { h with }
  exact Changed.and_then_invariant
    (Changed.and_then_invariant (Changed.and_then_invariant hjobs hstages) hqueries) happlication

/-- Plan analysis keeps the jobs of a store listed. -/
theorem Listed.analyze (h : store.Listed) : store.analyze.Listed := by
  rw [analyze_eq]
  exact { h with }

/-- A stage attempt that is closed has the times of its tasks. -/
theorem close_stage_times (store : Store) (key : StageKey) (stage : Stage) :
    ((store.closeStage key stage).1.cpuTime, (store.closeStage key stage).1.runTime) =
      (store.taskSum .cpuTime key, store.taskSum .runTime key) := by
  unfold closeStage
  simp only
  split
  · exact write_duration_same (fun stage : Stage => (stage.cpuTime, stage.runTime)) fun _ _ => rfl
  · rfl

/-- Jobs are listed, no two stage attempts are the same, and each has the times of its tasks. -/
structure Linked (store : Store) : Prop where
  jobs : store.Listed
  stages : store.stages.Apart StageKey.agrees
  times : ∀ entry ∈ store.stages.entries,
    (entry.2.cpuTime, entry.2.runTime) =
      (store.taskSum .cpuTime entry.1, store.taskSum .runTime entry.1)

/-- What is derived about stage attempts, and that tasks are as before. -/
theorem derived_attempts (hderive : store.derive = .ok derived) :
    derived.stages = store.closed.stages ∧ derived.tasks = store.tasks := by
  obtain ⟨-, rfl⟩ := derive_eq_ok_iff.mp hderive
  rw [analyze_eq]
  exact ⟨rfl, rfl⟩

/-- A store that is derived from another one is linked. -/
theorem derive_linked (hlisted : store.Listed) (hidentified : store.Identified)
    (hderive : store.derive = .ok derived) : derived.Linked := by
  obtain ⟨hjobs, -⟩ := derived_records hderive
  obtain ⟨hstages, htasks⟩ := derived_attempts hderive
  have hsum : derived.taskSum = store.taskSum := by
    funext metric key
    rw [taskSum, taskSum, htasks]
  refine ⟨⟨?_, fun entry hmem => ?_, fun entry hmem => ?_⟩, ?_, fun entry hmem => ?_⟩
  · rw [hjobs]
    exact hlisted.apart.map_values _
  · rw [hjobs] at hmem
    obtain ⟨before, hbefore, rfl⟩ := List.mem_map.mp hmem
    exact (close_job_id store _ _).trans (hlisted.ids before hbefore)
  · rw [hjobs] at hmem
    obtain ⟨before, hbefore, rfl⟩ := List.mem_map.mp hmem
    rw [close_job_stages]
    exact hlisted.stages before hbefore
  · rw [hstages]
    exact hidentified.stages.apart.map_values _
  · rw [hstages] at hmem
    obtain ⟨before, hbefore, rfl⟩ := List.mem_map.mp hmem
    rw [hsum]
    exact close_stage_times store _ _

end Store

/-- A session keeps its jobs listed. -/
theorem Session.run_listed {session : Session} (h : session.store.Listed)
    (steps : List SessionStep) : (session.run steps).1.store.Listed :=
  run_store_invariant Store.apply_listed (fun _ h => h.correlate) (fun _ h => h.analyze)
    (fun _ h => { h with }) h steps

/-- The store of an analysis is linked. -/
theorem Analysis.store_linked {settings : Settings} {index : Int} {records : List Payload}
    {analysis : Analysis} (h : Analysis.ofRecords settings index records = .ok analysis) :
    analysis.store.Linked := by
  obtain ⟨-, derived, hderive, rfl⟩ := Analysis.of_records_eq_ok_iff.mp h
  exact Store.derive_linked
    (Intake.records_store_invariant (Store.apply_listed settings) Store.listed_empty records)
    (Intake.records_store_invariant (Store.apply_identified settings) Store.identified_empty
      records)
    hderive

end SparkLog
