import SparkLog.Proofs.Derivation.Sessions

/-!
# Correlation before the last event

An early correlation writes into the records that a later one reads. What it wrote is written over:
ends, durations, results and reasons follow from what is known at last, for what was known early is
known still (`Store.Succeeds`). One thing stays: the submission time that an early correlation takes
from a completion where a stage attempt has none. So correlating early changes nothing but the stage
attempts whose completion is told again with another submission time (`correlated_twice`).
-/

namespace SparkLog

/-! ## Filling two collections -/

namespace Keyed

variable {κ α : Type} {same : κ → κ → Bool}

/-- Whether something is found under a key is told by the keys that are there. -/
theorem is_some_find_by (table : Keyed κ α) (key : κ) :
    (table.findBy? same key).isSome = table.keys.any (same · key) := by
  rw [findBy?, Option.isSome_map, List.isSome_find?, keys, List.any_map]
  rfl

/-- Two collections with the same keys are filled with the same entries. -/
theorem fill_by_same_keys {table other : Keyed κ α} (hkeys : table.keys = other.keys)
    (entries : List (κ × α)) :
    ∃ added, table.fillBy same entries = ⟨table.entries ++ added⟩ ∧
      other.fillBy same entries = ⟨other.entries ++ added⟩ := by
  induction entries generalizing table other with
  | nil => exact ⟨[], by simp, by simp⟩
  | cons entry rest ih =>
      have hknown : (table.findBy? same entry.1).isSome = (other.findBy? same entry.1).isSome := by
        rw [is_some_find_by, is_some_find_by, hkeys]
      rw [fillBy, fillBy, List.foldl_cons, List.foldl_cons, hknown]
      cases hfound : other.findBy? same entry.1 with
      | some value => exact ih hkeys
      | none =>
          have hnone : table.findBy? same entry.1 = none := by simpa [hfound] using hknown
          rw [if_neg (by simp), insert_by_of_none hnone, insert_by_of_none hfound]
          obtain ⟨added, htable, hother⟩ := @ih ⟨table.entries ++ [(entry.1, entry.2)]⟩
            ⟨other.entries ++ [(entry.1, entry.2)]⟩
            (by simp only [keys, List.map_append] at hkeys ⊢; rw [hkeys])
          refine ⟨(entry.1, entry.2) :: added, htable.trans ?_, hother.trans ?_⟩ <;> simp

section MapFilled

variable {table : Keyed κ α} {first last : κ → α → α} {entries : List (κ × α)}

/-- Values that are changed in a filled collection come out the same, whether they were changed
before or not, exactly if that holds of the values that were there. -/
theorem map_values_filled_iff {β : Type} {last : κ → α → β} :
    ((table.mapValues first).fillBy same entries).mapValues last =
        (table.fillBy same entries).mapValues last ↔
      ∀ entry ∈ table.entries, last entry.1 (first entry.1 entry.2) = last entry.1 entry.2 := by
  have hkeys : (table.mapValues first).keys = table.keys := by
    simp [keys, mapValues, Function.comp_def]
  obtain ⟨added, hmapped, htable⟩ := @fill_by_same_keys κ α same _ _ hkeys entries
  rw [hmapped, htable]
  simp only [mapValues, List.map_append, List.map_map, Keyed.mk.injEq, List.append_cancel_right_eq,
    List.map_inj_left, Function.comp_apply, Prod.mk.injEq, true_and]

/-- A look-up among changed values finds the changed value. -/
theorem find_by_map_values (hlast : ∀ a b, same a b = true → last a = last b) {key : κ} :
    (table.mapValues last).findBy? same key = (table.findBy? same key).map (last key) := by
  simp only [findBy?, mapValues, List.find?_map, Option.map_map]
  refine Option.map_congr fun entry hfound => ?_
  have hsame := @List.find?_some (κ × α) (fun entry => same entry.1 key) entry _ hfound
  exact congrFun (hlast _ _ hsame) entry.2

/-- What is found under a key in a filled collection comes out the same, whether it was changed
before or not, exactly if that holds of what was found before. -/
theorem find_by_filled_iff (hfirst : ∀ a b, same a b = true → first a = first b)
    (hlast : ∀ a b, same a b = true → last a = last b) {key : κ} :
    (((table.mapValues first).fillBy same entries).mapValues last).findBy? same key =
        ((table.fillBy same entries).mapValues last).findBy? same key ↔
      ∀ value, table.findBy? same key = some value →
        last key (first key value) = last key value := by
  have hkeys : (table.mapValues first).keys = table.keys := by
    simp [keys, mapValues, Function.comp_def]
  obtain ⟨added, hmapped, htable⟩ := @fill_by_same_keys κ α same _ _ hkeys entries
  have hor (front : Keyed κ α) : (⟨front.entries ++ added⟩ : Keyed κ α).findBy? same key =
      (front.findBy? same key).or ((⟨added⟩ : Keyed κ α).findBy? same key) := by
    rw [findBy?, List.find?_append, Option.map_or]
    rfl
  rw [find_by_map_values hlast, find_by_map_values hlast, hmapped, htable, hor, hor,
    find_by_map_values hfirst]
  cases table.findBy? same key <;> simp

end MapFilled

end Keyed

/-! ## Filling in again -/

/-- A stage attempt without the time of its submission and the duration that follows from it. -/
def Stage.undated (stage : Stage) : Stage :=
  { stage with submitted := none, duration := none, elapsed := "" }

/-- A record whose duration is written as another one would be is the other one. -/
theorem write_duration_again {α : Type} {value again : α} {duration : Option Int}
    {write : α → String → α} (hwrite : ∀ elapsed, write again elapsed = write value elapsed)
    (h : (writeDuration value duration write).2 = none) :
    (writeDuration again duration write).1 = (writeDuration value duration write).1 := by
  obtain ⟨elapsed, htext, hvalue⟩ := write_duration_complete h
  rw [hvalue, ← hwrite elapsed, writeDuration, htext]

namespace Store

variable {early last : Store}

/-- What was known in a store is known in a later one: ends, and that there is an estimate. -/
structure Succeeds (early last : Store) : Prop where
  jobEnds : ∀ id, last.jobEnds.find? id = none → early.jobEnds.find? id = none
  completions : ∀ key, last.completion? key = none → early.completion? key = none
  queryEnds : ∀ id, last.queryEnds.find? id = none → early.queryEnds.find? id = none
  finish : last.finish = none → early.finish = none
  estimate : last.estimatedFinish = none → early.estimatedFinish = none

/-- Closing a job changes its derived fields alone. -/
theorem close_job_form (store : Store) (id : Int) (job : Job) :
    ∃ finish duration elapsed result failure,
      (store.closeJob id job).1 = { job with finish, duration, elapsed, result, failure } := by
  unfold closeJob
  cases store.jobEnds.find? id with
  | none => exact ⟨_, _, _, _, _, rfl⟩
  | some jobEnd =>
      dsimp only [Job.close, writeDuration]
      split <;> exact ⟨_, _, _, _, _, rfl⟩

/-- A job that was closed early is closed as it would have been at last. -/
theorem close_job_again (h : early.Succeeds last) {id : Int} {job : Job}
    (hcloses : (last.closeJob id job).2 = none) :
    (last.closeJob id (early.closeJob id job).1).1 = (last.closeJob id job).1 := by
  cases hlast : last.jobEnds.find? id with
  | none =>
      have hearly : (early.closeJob id job).1 = job := by rw [closeJob, h.jobEnds id hlast]
      rw [hearly]
  | some jobEnd =>
      obtain ⟨finish, duration, elapsed, result, failure, hform⟩ := early.close_job_form id job
      simp only [closeJob, hlast] at hcloses hform ⊢
      rw [hform]
      exact write_duration_again (fun _ => rfl) hcloses

/-- Closing a query changes its derived fields alone. -/
theorem close_query_form (store : Store) (id : Int) (query : Query) :
    ∃ finish duration elapsed,
      (store.closeQuery id query).1 = { query with finish, duration, elapsed } := by
  unfold closeQuery
  cases store.queryEnds.find? id with
  | none => exact ⟨_, _, _, rfl⟩
  | some time =>
      dsimp only [Query.close, writeDuration]
      split <;> exact ⟨_, _, _, rfl⟩

/-- A query that was closed early is closed as it would have been at last. -/
theorem close_query_again (h : early.Succeeds last) {id : Int} {query : Query}
    (hcloses : (last.closeQuery id query).2 = none) :
    (last.closeQuery id (early.closeQuery id query).1).1 = (last.closeQuery id query).1 := by
  cases hlast : last.queryEnds.find? id with
  | none =>
      have hearly : (early.closeQuery id query).1 = query := by
        rw [closeQuery, h.queryEnds id hlast]
      rw [hearly]
  | some time =>
      obtain ⟨finish, duration, elapsed, hform⟩ := early.close_query_form id query
      simp only [closeQuery, hlast] at hcloses hform ⊢
      rw [hform]
      exact write_duration_again (fun _ => rfl) hcloses

/-- Closing the application changes its derived fields alone; its end is the observed or estimated
one, or the one that it has. -/
theorem close_application_form (store : Store) (application : Application) :
    ∃ finish estimated duration elapsed version accelerated,
      (store.closeApplication application).1 =
        { application with finish, estimated, duration, elapsed, version, accelerated } ∧
      (store.finish = none → store.estimatedFinish = none →
        finish = application.finish ∧ estimated = application.estimated) := by
  unfold closeApplication
  cases store.finish with
  | some time =>
      dsimp only [Application.close, writeDuration]
      split <;> exact ⟨_, _, _, _, _, _, rfl, nofun⟩
  | none =>
      cases store.estimatedFinish with
      | some time =>
          dsimp only [Application.close, writeDuration]
          split <;> exact ⟨_, _, _, _, _, _, rfl, nofun⟩
      | none =>
          dsimp only [Application.close, writeDuration]
          split <;> exact ⟨_, _, _, _, _, _, rfl, fun _ _ => ⟨rfl, rfl⟩⟩

/-- The application that was closed early is closed as it would have been at last. -/
theorem close_application_again (h : early.Succeeds last) {application : Application}
    (hcloses : (last.closeApplication application).2 = none) :
    (last.closeApplication (early.closeApplication application).1).1 =
      (last.closeApplication application).1 := by
  obtain ⟨finish, estimated, duration, elapsed, version, accelerated, hform, hstays⟩ :=
    early.close_application_form application
  rw [hform]
  unfold closeApplication Application.close at hcloses ⊢
  cases hfinish : last.finish with
  | some time =>
      simp only [hfinish] at hcloses ⊢
      exact write_duration_again (fun _ => rfl) hcloses
  | none =>
      cases hestimate : last.estimatedFinish with
      | some time =>
          simp only [hfinish, hestimate] at hcloses ⊢
          exact write_duration_again (fun _ => rfl) hcloses
      | none =>
          obtain ⟨rfl, rfl⟩ := hstays (h.finish hfinish) (h.estimate hestimate)
          simp only [hfinish, hestimate] at hcloses ⊢
          exact write_duration_again (fun _ => rfl) hcloses

/-- Closing a stage attempt changes its derived fields alone, and the time of its submission where
only the completion has one. -/
theorem close_stage_form (store : Store) (key : StageKey) (stage : Stage) :
    ∃ completed duration elapsed failure runTime cpuTime,
      (store.closeStage key stage).1 =
        { stage with
          submitted :=
            stage.submitted.or ((store.completion? key).bind StageCompletion.submitted)
          completed, duration, elapsed, failure, runTime, cpuTime } := by
  unfold closeStage
  cases store.completion? key with
  | none => exact ⟨_, _, _, _, _, _, by rw [Option.bind_none, Option.or_none]; rfl⟩
  | some completion =>
      dsimp only [Stage.close, Stage.withTimes, writeDuration]
      split <;> exact ⟨_, _, _, _, _, _, rfl⟩

/-- Stage attempts that differ in derived fields are closed alike exactly if the time of their
submission is the same in the end. -/
theorem close_eq_iff {stage other : Stage} {completion : StageCompletion}
    (hother : ∃ submitted completed duration elapsed failure,
      other = { stage with submitted, completed, duration, elapsed, failure })
    (h : (stage.close completion).2 = none) (h' : (other.close completion).2 = none) :
    (other.close completion).1 = (stage.close completion).1 ↔
      other.submitted.or completion.submitted = stage.submitted.or completion.submitted := by
  obtain ⟨submitted, completed, duration, elapsed, failure, rfl⟩ := hother
  constructor
  · intro hsame
    obtain ⟨text, -, hwrite⟩ := write_duration_complete h
    obtain ⟨text', -, hwrite'⟩ := write_duration_complete h'
    rw [Stage.close, Stage.close, hwrite, hwrite'] at hsame
    exact congrArg Stage.submitted hsame
  · intro hsame
    unfold Stage.close at h ⊢
    simp only [hsame]
    exact write_duration_again (fun _ => rfl) h

/-- The submission time that a stage attempt without one takes from an early completion is the one
of the completion at last. -/
def KeepsSubmission (early last : Store) (key : StageKey) (stage : Stage) : Prop :=
  stage.submitted = none → ∀ first, early.completion? key = some first → first.submitted ≠ none →
    ∀ final, last.completion? key = some final → final.submitted = first.submitted

/-- A stage attempt that was closed early is closed as it would have been at last exactly if it
keeps the time of its submission. -/
theorem close_stage_again_iff (h : early.Succeeds last) {key : StageKey} {stage : Stage}
    (hcloses : (last.closeStage key stage).2 = none)
    (hagain : (last.closeStage key (early.closeStage key stage).1).2 = none) :
    (last.closeStage key (early.closeStage key stage).1).1 = (last.closeStage key stage).1 ↔
      early.KeepsSubmission last key stage := by
  unfold KeepsSubmission
  cases hlast : last.completion? key with
  | none =>
      have hearly := h.completions key hlast
      simp [closeStage, hlast, hearly, Stage.withTimes]
  | some final =>
      obtain ⟨completed, duration, elapsed, failure, runTime, cpuTime, hform⟩ :=
        early.close_stage_form key stage
      rw [hform] at hagain ⊢
      simp only [closeStage, hlast] at hcloses hagain ⊢
      refine (close_eq_iff ⟨_, _, _, _, _, rfl⟩ hcloses hagain).trans ?_
      simp only [Stage.withTimes]
      cases stage.submitted with
      | some time => simp
      | none =>
          cases early.completion? key with
          | none => simp
          | some first => cases hfirst : first.submitted <;> simp [hfirst, eq_comm]

/-- What closing a stage attempt changes but for the times is told by its completion. -/
theorem close_undated (stage : Stage) (completion : StageCompletion) :
    (stage.close completion).1.undated =
      { stage.undated with completed := completion.completed, failure := completion.failure } := by
  exact write_duration_same Stage.undated fun _ _ => rfl

/-- A stage attempt that was closed early differs in the time of its submission and in the duration
that follows from it at most. -/
theorem close_stage_again_undated (h : early.Succeeds last) (key : StageKey) (stage : Stage) :
    (last.closeStage key (early.closeStage key stage).1).1.undated =
      (last.closeStage key stage).1.undated := by
  cases hlast : last.completion? key with
  | none =>
      have hearly := h.completions key hlast
      simp [closeStage, hlast, hearly, Stage.withTimes]
  | some final =>
      obtain ⟨completed, duration, elapsed, failure, runTime, cpuTime, hform⟩ :=
        early.close_stage_form key stage
      rw [hform]
      simp only [closeStage, hlast]
      rw [close_undated, close_undated]
      rfl

/-- A stage attempt is closed alike under keys that agree. -/
theorem close_stage_congr (store : Store) {key other : StageKey} (h : key.agrees other = true) :
    store.closeStage key = store.closeStage other := by
  have hcompletion : store.completion? key = store.completion? other :=
    Keyed.find_by_congr StageKey.agrees_equivalence h
  have hsum (metric : TaskMetric) : store.taskSum metric key = store.taskSum metric other := by
    simp only [taskSum, Keyed.same_congr StageKey.agrees_equivalence h]
  funext stage
  rw [closeStage, closeStage, hcompletion, hsum, hsum]

/-! ## Events behind an early correlation -/

variable {settings : Settings} {store other : Store}

/-- What is known in a store is known after an event. -/
theorem succeeds_apply (settings : Settings) (store : Store) (event : Event) :
    store.Succeeds (store.apply settings event).1 where
  jobEnds _ hnone := job_ends_entered.unknown hnone
  completions _ hnone := completions_entered.unknown StageKey.agrees_equivalence hnone
  queryEnds _ hnone := query_ends_entered.unknown hnone
  finish hnone := by
    rw [finish_entered] at hnone
    exact (Option.or_eq_none_iff.mp hnone).1
  estimate hnone := by
    rw [estimated_finish_eq_none_iff] at hnone ⊢
    exact fun time htime => hnone time (ends_subset_apply settings store event htime)

/-- What is known is known later still. -/
theorem Succeeds.trans {later : Store} (h : early.Succeeds last) (h' : last.Succeeds later) :
    early.Succeeds later where
  jobEnds id hnone := h.jobEnds id (h'.jobEnds id hnone)
  completions key hnone := h.completions key (h'.completions key hnone)
  queryEnds id hnone := h.queryEnds id (h'.queryEnds id hnone)
  finish hnone := h.finish (h'.finish hnone)
  estimate hnone := h.estimate (h'.estimate hnone)

/-- What is known in a store is known after a run. -/
theorem succeeds_absorb_all (settings : Settings) (store : Store) (events : List Event) :
    store.Succeeds (store.absorbAll settings events) := by
  induction events generalizing store with
  | nil => exact ⟨fun _ h => h, fun _ h => h, fun _ h => h, fun h => h, fun h => h⟩
  | cons event rest ih =>
      rw [absorb_all_cons, ← apply_eq_absorb]
      exact (succeeds_apply settings store event).trans (ih _)

/-- Two stores hold the same about all that records are closed by. -/
structure SameSources (store other : Store) : Prop where
  finish : store.finish = other.finish
  version : store.version = other.version
  accelerated : store.accelerated = other.accelerated
  jobEnds : store.jobEnds = other.jobEnds
  completions : store.completions = other.completions
  queryEnds : store.queryEnds = other.queryEnds
  taskKeys : store.taskKeys = other.taskKeys
  tasks : store.tasks = other.tasks

/-- Closing records leaves alone what they are closed by. -/
theorem closed_same_sources (store : Store) : store.closed.SameSources store :=
  ⟨rfl, rfl, rfl, rfl, rfl, rfl, rfl, rfl⟩

/-- Two stores that hold the same sources do so after a run. -/
theorem SameSources.absorb_all (h : store.SameSources other) (events : List Event) :
    (store.absorbAll settings events).SameSources (other.absorbAll settings events) := by
  induction events generalizing store other with
  | nil => exact h
  | cons event rest ih =>
      refine ih ?_
      have hknown (added : Store) : store.knowsTask added = other.knowsTask added := by
        rw [knowsTask, knowsTask, h.taskKeys]
      constructor <;> simp only [absorb, h.finish, h.version, h.accelerated, h.jobEnds,
        h.completions, h.queryEnds, h.taskKeys, h.tasks, hknown]

section SameSources

variable (h : store.SameSources other)
include h

/-- Records are closed alike by the same sources. -/
theorem SameSources.closes : store.closeJob = other.closeJob ∧
    store.closeStage = other.closeStage ∧ store.closeQuery = other.closeQuery ∧
      store.closeApplication = other.closeApplication := by
  have hsum (metric : TaskMetric) (key : StageKey) :
      store.taskSum metric key = other.taskSum metric key := by
    rw [taskSum, taskSum, h.tasks]
  refine ⟨?_, ?_, ?_, ?_⟩
  · funext id job
    rw [closeJob, closeJob, h.jobEnds]
  · funext key stage
    simp only [closeStage, completion?, h.completions, hsum]
  · funext id query
    rw [closeQuery, closeQuery, h.queryEnds]
  · funext application
    simp only [closeApplication, estimatedFinish, h.version, h.accelerated, h.finish, h.jobEnds,
      h.queryEnds]

end SameSources

section ClosedEarly

variable {events : List Event}

section Family

variable {κ α : Type} {same : κ → κ → Bool} {family : Store → Keyed κ α}
  {news : Event → List (κ × α)} {close : Store → κ → α → Changed α}
  (hfamily : ∀ (store : Store) event,
    family (store.absorb settings event) = (family store).fillBy same (news event))
include hfamily

/-- What a filled family holds, it holds after a run. -/
theorem mem_absorb_all {entry : κ × α} (h : entry ∈ (family store).entries) :
    entry ∈ (family (store.absorbAll settings events)).entries := by
  rw [absorb_all_fill family hfamily]
  exact ((family store).prefix_fill_by _).subset h

section Closed

variable
  (hclosed : ∀ store, family store.closed =
    (family store).mapValues fun key value => (close store key value).1)
  (hclose : close (store.closed.absorbAll settings events) =
    close (store.absorbAll settings events))
include hclosed hclose

/-- A filled family whose records were closed early is filled with the same records as otherwise,
and all are closed alike at last. -/
theorem closed_absorb_all_eq :
    let last key value := (close (store.absorbAll settings events) key value).1
    family (store.closed.absorbAll settings events).closed =
        (((family store).mapValues fun key value => (close store key value).1).fillBy same
          (events.flatMap news)).mapValues last ∧
      family (store.absorbAll settings events).closed =
        ((family store).fillBy same (events.flatMap news)).mapValues last := by
  simp only [hclosed, hclose, absorb_all_fill family hfamily, and_self]

/-- A filled family whose records were closed early ends as it would have at last if its records
are closed again as they would have been at last. -/
theorem closed_absorb_all_same
    (hagain : ∀ entry ∈ (family (store.absorbAll settings events)).entries,
      (close (store.absorbAll settings events) entry.1 (close store entry.1 entry.2).1).1 =
        (close (store.absorbAll settings events) entry.1 entry.2).1) :
    family (store.closed.absorbAll settings events).closed =
      family (store.absorbAll settings events).closed := by
  obtain ⟨htwice, honce⟩ := closed_absorb_all_eq hfamily hclosed hclose
  rw [htwice, honce]
  exact Keyed.map_values_filled_iff.mpr fun entry hmem =>
    hagain entry (mem_absorb_all hfamily hmem)

end Closed

end Family

/-- The application that was closed early ends as it would have at last. -/
theorem closed_absorb_all_application (h : (store.absorbAll settings events).Closes) :
    (store.closed.absorbAll settings events).closed.application =
      (store.absorbAll settings events).closed.application := by
  have hclose :=
    (@SameSources.absorb_all settings _ _ store.closed_same_sources events).closes.2.2.2
  have hclosed (store : Store) : store.closed.application =
      store.application.map fun application => (store.closeApplication application).1 := rfl
  have hfirst (store : Store) :=
    @absorb_all_first settings _ (·.application) _ (fun _ _ => rfl) store events
  rw [hclosed, hclosed, hclose, hfirst, hfirst, hclosed]
  cases happlication : store.application with
  | none => rfl
  | some application =>
      refine congrArg some (close_application_again (store.succeeds_absorb_all settings events)
        (h.application application ?_))
      rw [hfirst, happlication]
      rfl

/-- Jobs that were closed early end as they would have at last. -/
theorem closed_absorb_all_jobs (h : (store.absorbAll settings events).Closes) :
    (store.closed.absorbAll settings events).closed.jobs =
      (store.absorbAll settings events).closed.jobs :=
  closed_absorb_all_same (fun _ _ => rfl) (fun _ => rfl)
    (store.closed_same_sources.absorb_all events).closes.1 fun entry hmem =>
      close_job_again (store.succeeds_absorb_all settings events) (h.jobs entry hmem)

/-- Queries that were closed early end as they would have at last. -/
theorem closed_absorb_all_queries (h : (store.absorbAll settings events).Closes) :
    (store.closed.absorbAll settings events).closed.queries =
      (store.absorbAll settings events).closed.queries :=
  closed_absorb_all_same (fun _ _ => rfl) (fun _ => rfl)
    (store.closed_same_sources.absorb_all events).closes.2.2.1 fun entry hmem =>
      close_query_again (store.succeeds_absorb_all settings events) (h.queries entry hmem)

/-- Stage attempts that were closed early end as they would have at last, up to the times of their
submission; those that keep theirs end the same. -/
theorem closed_absorb_all_stages (htwice : (store.closed.absorbAll settings events).Closes)
    (honce : (store.absorbAll settings events).Closes) :
    let twice := (store.closed.absorbAll settings events).closed.stages
    let once := (store.absorbAll settings events).closed.stages
    twice.mapValues (fun _ => Stage.undated) = once.mapValues (fun _ => Stage.undated) ∧
      ∀ key, twice.findBy? StageKey.agrees key = once.findBy? StageKey.agrees key ↔
        ∀ stage, store.stages.findBy? StageKey.agrees key = some stage →
          store.KeepsSubmission (store.absorbAll settings events) key stage := by
  have hclose := (@SameSources.absorb_all settings _ _ store.closed_same_sources events).closes.2.1
  have hknown := store.succeeds_absorb_all settings events
  obtain ⟨hearly, hlate⟩ := @closed_absorb_all_eq settings store events _ _ _ (·.stages) _
    closeStage (fun _ _ => rfl) (fun _ => rfl) hclose
  rw [hearly, hlate]
  refine ⟨?_, fun key => (Keyed.find_by_filled_iff ?_ ?_).trans ?_⟩
  · rw [Keyed.map_values_map_values, Keyed.map_values_map_values]
    exact Keyed.map_values_filled_iff.mpr fun entry _ =>
      close_stage_again_undated hknown entry.1 entry.2
  · intro a b h
    rw [close_stage_congr _ h]
  · intro a b h
    rw [close_stage_congr _ h]
  · refine forall₂_congr fun stage hstage => ?_
    obtain ⟨entry, hentry, hkey, rfl⟩ := Keyed.mem_of_find_by hstage
    have hcloses := honce.stages entry
      (@mem_absorb_all settings store events _ _ _ (·.stages) _ (fun _ _ => rfl) entry hentry)
    have hagain := htwice.stages (entry.1, (store.closeStage entry.1 entry.2).1)
      (@mem_absorb_all settings store.closed events _ _ _ (·.stages) _ (fun _ _ => rfl) _
        (List.mem_map_of_mem hentry))
    rw [hclose] at hagain
    simp only [close_stage_congr _ hkey] at hcloses hagain
    exact close_stage_again_iff hknown hcloses hagain

end ClosedEarly

end Store

namespace Intake

/-- Correlate what was taken in. -/
def correlate (intake : Intake) : Changed Intake :=
  let (store, failure) := intake.store.correlate
  ({ intake with store }, failure)

/-- Take two logs in, then correlate. -/
def correlatedOnce (settings : Settings) (first second : List Payload) : Changed Intake :=
  ((records settings {} first).andThen fun intake => records settings intake second).andThen
    correlate

/-- Take two logs in, and correlate after each of them. -/
def correlatedTwice (settings : Settings) (first second : List Payload) : Changed Intake :=
  (((records settings {} first).andThen correlate).andThen fun intake =>
    records settings intake second).andThen correlate

/-- Correlation of an intake that gets through has closed what it holds. -/
theorem correlate_complete {intake : Intake} (h : intake.correlate.2 = none) :
    intake.store.Closes ∧
      intake.correlate = ({ intake with store := intake.store.closed }, none) := by
  have hcloses := Store.correlate_complete_iff.mp h
  refine ⟨hcloses, ?_⟩
  rw [correlate, Store.correlate_eq hcloses]

section Correlated

variable {settings : Settings} (hlenient : settings.strict = false) {first second : List Payload}
include hlenient

/-- What correlation in the end leaves if it gets through. -/
theorem correlated_once_store (h : (correlatedOnce settings first second).2 = none) :
    let early := (records settings {} first).1.store
    let last := early.absorbAll settings (second.filterMap readEvent?)
    last.Closes ∧ (correlatedOnce settings first second).1.store = last.closed := by
  obtain ⟨hrecords, hlast⟩ := Changed.and_then_complete_iff.mp h
  obtain ⟨hfirst, hsecond⟩ := Changed.and_then_complete_iff.mp hrecords
  rw [correlatedOnce, Changed.and_then_eq hrecords]
  obtain ⟨hcloses, heq⟩ := correlate_complete hlast
  rw [heq]
  rw [Changed.and_then_eq hfirst] at hcloses ⊢
  rw [records_store_eq hlenient hsecond] at hcloses ⊢
  exact ⟨hcloses, rfl⟩

/-- What correlation after each log leaves if it gets through. -/
theorem correlated_twice_store (h : (correlatedTwice settings first second).2 = none) :
    let early := (records settings {} first).1.store
    let last := early.closed.absorbAll settings (second.filterMap readEvent?)
    last.Closes ∧ (correlatedTwice settings first second).1.store = last.closed := by
  obtain ⟨hrecords, hlast⟩ := Changed.and_then_complete_iff.mp h
  obtain ⟨hearly, hsecond⟩ := Changed.and_then_complete_iff.mp hrecords
  obtain ⟨hfirst, hcorrelate⟩ := Changed.and_then_complete_iff.mp hearly
  rw [correlatedTwice, Changed.and_then_eq hrecords]
  obtain ⟨hcloses, heq⟩ := correlate_complete hlast
  rw [heq]
  have hclosed := (correlate_complete hcorrelate).2
  rw [Changed.and_then_eq hfirst, hclosed] at hsecond
  rw [Changed.and_then_eq hearly, Changed.and_then_eq hfirst, hclosed] at hcloses ⊢
  rw [records_store_eq hlenient hsecond] at hcloses ⊢
  exact ⟨hcloses, rfl⟩

/-- Correlation in the middle of a log leaves the same application, jobs and queries in the end, and
the same stage attempts up to the times of their submission; a stage attempt is the same exactly if
it keeps the time of its submission. -/
theorem correlated_twice (htwice : (correlatedTwice settings first second).2 = none)
    (honce : (correlatedOnce settings first second).2 = none) :
    let early := (records settings {} first).1.store
    let twice := (correlatedTwice settings first second).1.store
    let once := (correlatedOnce settings first second).1.store
    twice.application = once.application ∧ twice.jobs = once.jobs ∧ twice.queries = once.queries ∧
      twice.stages.mapValues (fun _ => Stage.undated) =
        once.stages.mapValues (fun _ => Stage.undated) ∧
      ∀ key, twice.stages.findBy? StageKey.agrees key = once.stages.findBy? StageKey.agrees key ↔
        ∀ stage, early.stages.findBy? StageKey.agrees key = some stage →
          early.KeepsSubmission once key stage := by
  obtain ⟨hcloses, hstore⟩ := correlated_once_store hlenient honce
  obtain ⟨hclosesTwice, hstoreTwice⟩ := correlated_twice_store hlenient htwice
  rw [hstore, hstoreTwice]
  have happlication := Store.closed_absorb_all_application hcloses
  exact ⟨happlication, Store.closed_absorb_all_jobs hcloses,
    Store.closed_absorb_all_queries hcloses, Store.closed_absorb_all_stages hclosesTwice hcloses⟩

end Correlated

/-- A stage attempt without the time of its submission, and its completion. -/
def unsubmittedStage : List Payload :=
  [ .object
      [ ("Event", .text "SparkListenerStageSubmitted"),
        ("Stage Info", .object [("Stage ID", .int 1)]) ],
    .object
      [ ("Event", .text "SparkListenerStageCompleted"),
        ("Stage Info", .object
          [("Stage ID", .int 1), ("Submission Time", .int 10), ("Completion Time", .int 20)]) ] ]

/-- The completion of the stage attempt again, with another time of its submission. -/
def completedAgain : List Payload :=
  [ .object
      [ ("Event", .text "SparkListenerStageCompleted"),
        ("Stage Info", .object
          [("Stage ID", .int 1), ("Submission Time", .int 12), ("Completion Time", .int 20)]) ] ]

/-- An early correlation settles the time of the submission, though the completion at last has
another one. -/
theorem completed_again_submission :
    let twice := correlatedTwice {} unsubmittedStage completedAgain
    let once := correlatedOnce {} unsubmittedStage completedAgain
    twice.2 = none ∧ once.2 = none ∧
      twice.1.store.stages.values.map (fun stage => (stage.submitted, stage.duration)) =
        [(some 10, some 10)] ∧
      once.1.store.stages.values.map (fun stage => (stage.submitted, stage.duration)) =
        [(some 12, some 8)] ∧
      twice.1.store.stages ≠ once.1.store.stages := by
  decide +kernel

/-- An application and a job behind whose starts an early correlation can run. -/
def runningJob : List Payload :=
  [ .object
      [ ("Event", .text "SparkListenerApplicationStart"), ("App Name", .text "a"),
        ("Timestamp", .int 5) ],
    .object
      [ ("Event", .text "SparkListenerJobStart"), ("Job ID", .int 1),
        ("Submission Time", .int 10) ] ]

/-- The end of the job, which the end of the application is estimated by. -/
def endedJob : List Payload :=
  [ .object
      [ ("Event", .text "SparkListenerJobEnd"), ("Job ID", .int 1),
        ("Completion Time", .int 40) ] ]

/-- The estimated end of an application and a job that ends late are as if no correlation had run
before them; the stage attempt whose completion is told again differs. -/
theorem ended_job_correlated_twice :
    let first := runningJob ++ unsubmittedStage
    let second := endedJob ++ completedAgain
    let twice := (correlatedTwice {} first second).1.store
    let once := (correlatedOnce {} first second).1.store
    (correlatedTwice {} first second).2 = none ∧ (correlatedOnce {} first second).2 = none ∧
      twice.application = once.application ∧ twice.jobs = once.jobs ∧
      twice.application.map (fun application => (application.finish, application.estimated)) =
        some (some 40, true) ∧
      twice.jobs.values.map (fun job => (job.duration, job.elapsed)) = [(some 30, "30 ms")] ∧
      twice.stages.mapValues (fun _ => Stage.undated) =
        once.stages.mapValues (fun _ => Stage.undated) ∧
      twice.stages.findBy? StageKey.agrees ⟨.int 1, .int 0⟩ ≠
        once.stages.findBy? StageKey.agrees ⟨.int 1, .int 0⟩ := by
  have htwice : (correlatedTwice {} (runningJob ++ unsubmittedStage)
      (endedJob ++ completedAgain)).2 = none := by decide +kernel
  have honce : (correlatedOnce {} (runningJob ++ unsubmittedStage)
      (endedJob ++ completedAgain)).2 = none := by decide +kernel
  obtain ⟨happlication, hjobs, -, hundated, -⟩ := correlated_twice rfl htwice honce
  exact ⟨htwice, honce, happlication, hjobs, by decide +kernel, by decide +kernel, hundated,
    by decide +kernel⟩

end Intake

end SparkLog
