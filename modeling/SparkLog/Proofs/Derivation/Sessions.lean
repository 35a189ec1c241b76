import SparkLog.Session
import SparkLog.Proofs.Derivation.Analysis
import SparkLog.Proofs.Derivation.Correlation
import SparkLog.Proofs.Ingestion.Entries

/-!
# Correlation over a session

In a session, correlation runs as often as it is asked for, on records that an earlier one filled
in. What makes the last one right is that ends are never forgotten: a record without an end was
never filled in (`Store.Untouched`), which every step of a session keeps (`untouched_step`), and a
record with an end is filled in anew from it. So correlation that gets through leaves every record
with its end and its duration (`Store.Untouched.correlated`).
-/

namespace SparkLog

/-! ## Times -/

/-- A record is timed right: it has a duration exactly if it has a start and an end, which is the
time between them, and that is written out; without a duration nothing is written. -/
structure Timed (start finish duration : Option Int) (elapsed : String) : Prop where
  spans : ∀ time, duration = some time ↔
    ∃ first last, start = some first ∧ finish = some last ∧ time = last - first
  unknown : duration = none → elapsed = ""
  written : ∀ time, duration = some time → Elapsed.text time = .ok elapsed

/-- What is filled in from a start and an end is timed right. -/
theorem timed_between {start finish : Option Int} {elapsed : String}
    (h : Elapsed.optionText (Elapsed.between start finish) = .ok elapsed) :
    Timed start finish (Elapsed.between start finish) elapsed where
  spans time := by
    cases start <;> cases finish <;> simp [Elapsed.between, eq_comm]
  unknown hnone := by
    rw [hnone] at h
    exact (Except.ok.inj h).symm
  written time hsome := by
    rw [hsome] at h
    exact h

/-- A record without an end is timed right if nothing was filled in. -/
theorem timed_untouched (start : Option Int) : Timed start none none "" where
  spans := by simp
  unknown _ := rfl
  written := by simp

/-! ## Untouched records -/

/-- No end was filled into a job. -/
def Job.Untouched (job : Job) : Prop :=
  job.finish = none ∧ job.duration = none ∧ job.elapsed = ""

/-- No completion was filled into a stage attempt. -/
def Stage.Untouched (stage : Stage) : Prop :=
  stage.completed = none ∧ stage.duration = none ∧ stage.elapsed = ""

/-- No end was filled into a query. -/
def Query.Untouched (query : Query) : Prop :=
  query.finish = none ∧ query.duration = none ∧ query.elapsed = ""

/-- No end was filled into an application. -/
def Application.Untouched (application : Application) : Prop :=
  application.finish = none ∧ application.estimated = false

namespace EventContent

variable {content : EventContent}

/-- No end is filled into a job that starts. -/
theorem job_untouched {id : Int} {job : Job} (h : content.job? = some (id, .ok job)) :
    job.Untouched := by
  cases content with
  | jobStart id start stages infos properties =>
      obtain ⟨query, -, rfl⟩ := map_eq_ok_iff.mp (Prod.mk.inj (Option.some.inj h)).2
      exact ⟨rfl, rfl, rfl⟩
  | _ => cases h

/-- No completion is filled into a stage attempt that is submitted. -/
theorem stage_untouched {key : StageKey} {stage : Stage}
    (h : content.stage? = some (key, .ok stage)) : stage.Untouched := by
  cases content with
  | stageSubmitted info properties =>
      obtain ⟨found, -, htold⟩ := Option.map_eq_some_iff.mp h
      have hread := (Prod.mk.inj htold).2
      simp only [Schema.accept_eq_ok_iff, Checked.seq_eq_ok_iff, Checked.map_eq_ok_iff] at hread
      obtain ⟨_, ⟨_, ⟨_, ⟨_, ⟨_, -, rfl⟩, _, -, rfl⟩, _, -, rfl⟩, _, -, rfl⟩, _, -, rfl⟩ := hread
      exact ⟨rfl, rfl, rfl⟩
  | _ => cases h

/-- No end is filled into a query that starts. -/
theorem query_untouched {id : Int} {query : Query} (h : content.query? = some (id, .ok query)) :
    query.Untouched := by
  cases content with
  | queryStart =>
      obtain rfl := Except.ok.inj (Prod.mk.inj (Option.some.inj h)).2
      exact ⟨rfl, rfl, rfl⟩
  | _ => cases h

/-- No end is filled into an application that starts. -/
theorem application_untouched {application : Application}
    (h : content.application? = some application) : application.Untouched := by
  cases content with
  | applicationStart =>
      obtain rfl := Option.some.inj h
      exact ⟨rfl, rfl⟩
  | _ => cases h

end EventContent

namespace Keyed

variable {κ α : Type} {same : κ → κ → Bool} {table after : Keyed κ α} {outcome : Option Failure}
  {told : Option (κ × Except Failure α)}

/-- A family where the first record of a key stays gets the record that is told behind the others,
or nothing. -/
theorem Fills.entries (h : table.Fills same after outcome told) :
    ∃ added, after.entries = table.entries ++ added ∧
      ∀ entry ∈ added, told = some (entry.1, .ok entry.2) := by
  cases told with
  | none =>
      obtain rfl : after = table := h
      exact ⟨[], by simp⟩
  | some told =>
      obtain ⟨rfl, -⟩ | ⟨-, hnew, value, hvalue, rfl⟩ := h
      · exact ⟨[], by simp⟩
      · refine ⟨[(told.1, value)], by rw [insert_by_of_none hnew], fun entry hentry => ?_⟩
        obtain rfl := List.mem_singleton.mp hentry
        rw [← hvalue]

/-- A key that is unknown in the end was unknown before. -/
theorem Fills.unknown (h : table.Fills same after outcome told) {key : κ}
    (hnone : after.findBy? same key = none) : table.findBy? same key = none := by
  obtain ⟨added, hentries, -⟩ := h.entries
  rw [find_by_eq_none_iff, hentries] at hnone
  exact find_by_eq_none_iff.mpr fun entry hmem => hnone entry (List.mem_append_left _ hmem)

/-- A key that is unknown in the end was unknown before, where the last record of a key stays. -/
theorem Overrides.unknown (hsame : Equivalence fun a b => same a b = true)
    (h : table.Overrides same after outcome told) {key : κ}
    (hnone : after.findBy? same key = none) : table.findBy? same key = none := by
  cases told with
  | none => exact h ▸ hnone
  | some told =>
      obtain ⟨rfl, -⟩ | ⟨-, value, -, rfl⟩ := h
      · exact hnone
      · rw [find_by_insert_by hsame] at hnone
        split at hnone
        · cases hnone
        · exact hnone

end Keyed

namespace Store

variable {store : Store}

/-- The ends of jobs and queries. -/
def ends (store : Store) : List Int :=
  store.jobEnds.values.map JobEnd.time ++ store.queryEnds.values

/-- The estimate is the largest end of a job or a query, if that is positive. -/
theorem estimated_finish_eq_some_iff {time : Int} : store.estimatedFinish = some time ↔
    time ∈ store.ends ∧ (∀ other ∈ store.ends, other ≤ time) ∧ 0 < time := by
  show (if 0 < store.ends.max?.getD 0 then some (store.ends.max?.getD 0) else none) = _ ↔ _
  cases hmax : store.ends.max? with
  | none =>
      rw [List.max?_eq_none_iff] at hmax
      simp [hmax]
  | some latest =>
      rw [List.max?_eq_some_iff] at hmax
      rw [Option.getD_some]
      constructor
      · intro h
        split at h
        · obtain rfl := Option.some.inj h
          exact ⟨hmax.1, hmax.2, by assumption⟩
        · cases h
      · rintro ⟨hmem, hlargest, hpositive⟩
        obtain rfl := Int.le_antisymm (hmax.2 time hmem) (hlargest latest hmax.1)
        rw [if_pos hpositive]

/-- There is no estimate exactly if no end is positive. -/
theorem estimated_finish_eq_none_iff :
    store.estimatedFinish = none ↔ ∀ time ∈ store.ends, time ≤ 0 := by
  constructor
  · intro hnone time hmem
    by_contra hpositive
    obtain ⟨latest, hlatest⟩ : ∃ latest, store.ends.max? = some latest := by
      refine Option.ne_none_iff_exists'.mp fun hempty => ?_
      rw [List.max?_eq_none_iff] at hempty
      simp [hempty] at hmem
    obtain ⟨hin, hlargest⟩ := List.max?_eq_some_iff.mp hlatest
    have hlater := hlargest time hmem
    have hsome := estimated_finish_eq_some_iff.mpr ⟨hin, hlargest, by omega⟩
    rw [hnone] at hsome
    cases hsome
  · intro h
    by_contra hsome
    obtain ⟨time, htime⟩ := Option.ne_none_iff_exists'.mp hsome
    obtain ⟨hmem, -, hpositive⟩ := estimated_finish_eq_some_iff.mp htime
    exact absurd (h time hmem) (by omega)

/-- Records without an end are untouched. -/
structure Untouched (store : Store) : Prop where
  jobs : ∀ entry ∈ store.jobs.entries, store.jobEnds.find? entry.1 = none → entry.2.Untouched
  stages : ∀ entry ∈ store.stages.entries, store.completion? entry.1 = none → entry.2.Untouched
  queries : ∀ entry ∈ store.queries.entries, store.queryEnds.find? entry.1 = none →
    entry.2.Untouched
  application : ∀ application ∈ store.application, store.finish = none →
    store.estimatedFinish = none → application.Untouched

/-! ## Events -/

/-- The ends of jobs and queries stay over an event. -/
theorem ends_subset_apply (settings : Settings) (store : Store) (event : Event) :
    store.ends ⊆ (store.apply settings event).1.ends := by
  obtain ⟨jobs, hjobs, -⟩ := (@job_ends_entered settings store event).entries
  obtain ⟨queries, hqueries, -⟩ := (@query_ends_entered settings store event).entries
  simp only [ends, Keyed.values, hjobs, hqueries, List.map_append]
  intro time hmem
  simp only [List.mem_append] at hmem ⊢
  exact hmem.imp .inl .inl

/-- An event keeps records without an end untouched. -/
theorem Untouched.apply (h : store.Untouched) (settings : Settings) (event : Event) :
    (store.apply settings event).1.Untouched where
  jobs entry hmem hnone := by
    obtain ⟨added, hentries, htold⟩ := (@jobs_entered settings store event).entries
    rw [hentries] at hmem
    obtain hmem | hmem := List.mem_append.mp hmem
    · exact h.jobs entry hmem (job_ends_entered.unknown hnone)
    · exact EventContent.job_untouched (htold entry hmem)
  stages entry hmem hnone := by
    obtain ⟨added, hentries, htold⟩ := (@stages_entered settings store event).entries
    rw [hentries] at hmem
    obtain hmem | hmem := List.mem_append.mp hmem
    · exact h.stages entry hmem
        (completions_entered.unknown StageKey.agrees_equivalence hnone)
    · exact EventContent.stage_untouched (htold entry hmem)
  queries entry hmem hnone := by
    obtain ⟨added, hentries, htold⟩ := (@queries_entered settings store event).entries
    rw [hentries] at hmem
    obtain hmem | hmem := List.mem_append.mp hmem
    · exact h.queries entry hmem (query_ends_entered.unknown hnone)
    · exact EventContent.query_untouched (htold entry hmem)
  application application hmem hnone hestimate := by
    rw [application_entered] at hmem
    rw [finish_entered] at hnone
    obtain hmem | ⟨-, hmem⟩ := Option.or_eq_some_iff.mp hmem
    · refine h.application application hmem (Option.or_eq_none_iff.mp hnone).1 ?_
      rw [estimated_finish_eq_none_iff] at hestimate ⊢
      exact fun time htime => hestimate time (ends_subset_apply settings store event htime)
    · exact EventContent.application_untouched hmem

/-! ## Correlation -/

/-- What correlation leaves under a key is what was there, or that filled in. -/
theorem mem_change_entries {κ α : Type} {change : κ → α → Changed α} {entries : List (κ × α)}
    {entry : κ × α} (h : entry ∈ (changeEntries change entries).1) :
    ∃ value, (entry.1, value) ∈ entries ∧
      (entry.2 = value ∨ entry.2 = (change entry.1 value).1) := by
  induction entries with
  | nil => cases h
  | cons first rest ih =>
      obtain ⟨key, value⟩ := first
      simp only [changeEntries] at h
      cases hchange : change key value with
      | mk changed failure =>
          rw [hchange] at h
          cases failure with
          | some failure =>
              obtain rfl | hmem := List.mem_cons.mp h
              · exact ⟨value, List.mem_cons_self, .inr (by rw [hchange])⟩
              · exact ⟨entry.2, List.mem_cons_of_mem _ hmem, .inl rfl⟩
          | none =>
              obtain rfl | hmem := List.mem_cons.mp h
              · exact ⟨value, List.mem_cons_self, .inr (by rw [hchange])⟩
              · obtain ⟨other, hother, hvalue⟩ := ih hmem
                exact ⟨other, List.mem_cons_of_mem _ hother, hvalue⟩

/-- Correlation leaves the keys as they were. -/
theorem keys_change_entries {κ α : Type} (change : κ → α → Changed α) (entries : List (κ × α)) :
    (changeEntries change entries).1.map Prod.fst = entries.map Prod.fst := by
  induction entries with
  | nil => rfl
  | cons first rest ih =>
      obtain ⟨key, value⟩ := first
      simp only [changeEntries]
      cases change key value with
      | mk changed failure =>
          cases failure with
          | some failure => rfl
          | none => rw [List.map_cons, List.map_cons, ih]

/-- Correlation of jobs keeps records without an end untouched, whether it gets through or not. -/
theorem Untouched.correlate_jobs (h : store.Untouched) : store.correlateJobs.1.Untouched :=
  { h with
    jobs := by
      intro entry hmem hnone
      obtain ⟨job, hjob, hvalue⟩ := @mem_change_entries _ _ store.closeJob _ _ hmem
      have hsame : (store.closeJob entry.1 job).1 = job := by
        rw [closeJob, show store.jobEnds.find? entry.1 = none from hnone]
      rw [hsame, or_self] at hvalue
      exact hvalue ▸ h.jobs _ hjob hnone }

/-- Correlation of stage attempts keeps records without an end untouched. -/
theorem Untouched.correlate_stages (h : store.Untouched) : store.correlateStages.1.Untouched :=
  { h with
    stages := by
      intro entry hmem hnone
      obtain ⟨stage, hstage, hvalue⟩ := @mem_change_entries _ _ store.closeStage _ _ hmem
      have hsame : (store.closeStage entry.1 stage).1 =
          stage.withTimes (store.taskSum .runTime entry.1) (store.taskSum .cpuTime entry.1) := by
        rw [closeStage, show store.completion? entry.1 = none from hnone]
      have huntouched := h.stages _ hstage hnone
      rw [hsame] at hvalue
      obtain hvalue | hvalue := hvalue <;> rw [hvalue] <;> exact huntouched }

/-- Correlation of queries keeps records without an end untouched. -/
theorem Untouched.correlate_queries (h : store.Untouched) : store.correlateQueries.1.Untouched :=
  { h with
    queries := by
      intro entry hmem hnone
      obtain ⟨query, hquery, hvalue⟩ := @mem_change_entries _ _ store.closeQuery _ _ hmem
      have hsame : (store.closeQuery entry.1 query).1 = query := by
        rw [closeQuery, show store.queryEnds.find? entry.1 = none from hnone]
      rw [hsame, or_self] at hvalue
      exact hvalue ▸ h.queries _ hquery hnone }

/-- An application without an observed or estimated end stays untouched when it is closed. -/
theorem close_untouched {application : Application} (h : application.Untouched) (version : String)
    (accelerated : Bool) :
    (application.close version accelerated none none).1.Untouched := by
  unfold Application.close
  obtain ⟨elapsed, -, hwrite⟩ | ⟨failure, hwrite⟩ := write_duration_cases
    { application with
      version, accelerated
      duration := Elapsed.between (some application.start) application.finish }
    (Elapsed.between (some application.start) application.finish)
    (fun application elapsed => { application with elapsed })
  all_goals
    simp only [hwrite]
    exact h

/-- Correlation of the application keeps records without an end untouched. -/
theorem Untouched.correlate_application (h : store.Untouched) :
    store.correlateApplication.1.Untouched := by
  rw [correlate_application_eq]
  exact
    { h with
      application := by
        intro application hmem hnone hestimate
        obtain ⟨before, hbefore, rfl⟩ := Option.map_eq_some_iff.mp hmem
        have hfinish : store.finish = none := hnone
        have hlatest : store.estimatedFinish = none := hestimate
        rw [closeApplication, hfinish, hlatest]
        exact close_untouched (h.application before hbefore hnone hestimate) _ _ }

/-- Correlation keeps records without an end untouched, whether it gets through or not. -/
theorem Untouched.correlate (h : store.Untouched) : store.correlate.1.Untouched := by
  refine Changed.and_then_invariant ?_ fun _ h => h.correlate_application
  refine Changed.and_then_invariant ?_ fun _ h => h.correlate_queries
  exact Changed.and_then_invariant h.correlate_jobs fun _ h => h.correlate_stages

/-- Plan analysis keeps records without an end untouched. -/
theorem Untouched.analyze (h : store.Untouched) : store.analyze.Untouched := by
  rw [analyze_eq]
  exact
    { h with
      queries := by
        intro entry hmem hnone
        obtain ⟨before, hbefore, rfl⟩ := List.mem_map.mp hmem
        exact h.queries before hbefore hnone }

/-! ## What correlation is for -/

/-- A store is correlated: every record has the end that the store holds about it and is timed
right, and the application has its observed end, or else the largest end of a job or a query if
that is positive. -/
structure Correlated (store : Store) : Prop where
  jobs : ∀ entry ∈ store.jobs.entries, ∀ jobEnd, store.jobEnds.find? entry.1 = some jobEnd →
    entry.2.finish = some jobEnd.time ∧ entry.2.result = jobEnd.result ∧
      entry.2.failure = jobEnd.failure
  stages : ∀ entry ∈ store.stages.entries, ∀ completion,
    store.completion? entry.1 = some completion →
      entry.2.completed = completion.completed ∧ entry.2.failure = completion.failure
  queries : ∀ entry ∈ store.queries.entries, ∀ time,
    store.queryEnds.find? entry.1 = some time → entry.2.finish = some time
  jobsTimed : ∀ job ∈ store.jobs.values, Timed job.start job.finish job.duration job.elapsed
  stagesTimed : ∀ stage ∈ store.stages.values,
    Timed stage.submitted stage.completed stage.duration stage.elapsed
  queriesTimed : ∀ query ∈ store.queries.values,
    Timed (some query.start) query.finish query.duration query.elapsed
  applicationTimed : ∀ application ∈ store.application,
    Timed (some application.start) application.finish application.duration application.elapsed
  finish : ∀ application ∈ store.application, ∀ time, application.finish = some time ↔
    store.finish = some time ∨ store.finish = none ∧
      time ∈ store.ends ∧ (∀ other ∈ store.ends, other ≤ time) ∧ 0 < time
  estimated : ∀ application ∈ store.application, application.estimated = true ↔
    store.finish = none ∧ ∃ time ∈ store.ends, 0 < time

/-- A job that is closed has its end, and is timed right. -/
theorem close_job_correlated {id : Int} {job : Job} (h : (store.closeJob id job).2 = none)
    (huntouched : store.jobEnds.find? id = none → job.Untouched) :
    let closed := (store.closeJob id job).1
    (∀ jobEnd, store.jobEnds.find? id = some jobEnd → closed.finish = some jobEnd.time ∧
        closed.result = jobEnd.result ∧ closed.failure = jobEnd.failure) ∧
      Timed closed.start closed.finish closed.duration closed.elapsed := by
  unfold closeJob at h ⊢
  cases hfound : store.jobEnds.find? id with
  | none =>
      obtain ⟨hfinish, hduration, helapsed⟩ := huntouched hfound
      refine ⟨nofun, ?_⟩
      simp only [hfinish, hduration, helapsed]
      exact timed_untouched job.start
  | some jobEnd =>
      rw [hfound] at h
      obtain ⟨elapsed, htext, hwrite⟩ := write_duration_complete h
      simp only [Job.close, hwrite]
      refine ⟨?_, timed_between htext⟩
      rintro _ ⟨⟩
      exact ⟨rfl, rfl, rfl⟩

/-- A stage attempt that is closed has its completion, and is timed right. -/
theorem close_stage_correlated {key : StageKey} {stage : Stage}
    (h : (store.closeStage key stage).2 = none)
    (huntouched : store.completion? key = none → stage.Untouched) :
    let closed := (store.closeStage key stage).1
    (∀ completion, store.completion? key = some completion →
        closed.completed = completion.completed ∧ closed.failure = completion.failure) ∧
      Timed closed.submitted closed.completed closed.duration closed.elapsed := by
  unfold closeStage at h ⊢
  cases hfound : store.completion? key with
  | none =>
      obtain ⟨hcompleted, hduration, helapsed⟩ := huntouched hfound
      refine ⟨nofun, ?_⟩
      simp only [Stage.withTimes, hcompleted, hduration, helapsed]
      exact timed_untouched stage.submitted
  | some completion =>
      rw [hfound] at h
      obtain ⟨elapsed, htext, hwrite⟩ := write_duration_complete h
      simp only [Stage.close, hwrite]
      refine ⟨?_, timed_between htext⟩
      rintro _ ⟨⟩
      exact ⟨rfl, rfl⟩

/-- A query that is closed has its end, and is timed right. -/
theorem close_query_correlated {id : Int} {query : Query} (h : (store.closeQuery id query).2 = none)
    (huntouched : store.queryEnds.find? id = none → query.Untouched) :
    let closed := (store.closeQuery id query).1
    (∀ time, store.queryEnds.find? id = some time → closed.finish = some time) ∧
      Timed (some closed.start) closed.finish closed.duration closed.elapsed := by
  unfold closeQuery at h ⊢
  cases hfound : store.queryEnds.find? id with
  | none =>
      obtain ⟨hfinish, hduration, helapsed⟩ := huntouched hfound
      refine ⟨nofun, ?_⟩
      simp only [hfinish, hduration, helapsed]
      exact timed_untouched (some query.start)
  | some time =>
      rw [hfound] at h
      obtain ⟨elapsed, htext, hwrite⟩ := write_duration_complete h
      simp only [Query.close, hwrite]
      refine ⟨?_, timed_between htext⟩
      rintro _ ⟨⟩
      rfl

/-- An application that is closed has its observed or else its estimated end, and is timed
right. -/
theorem close_application_correlated {application : Application}
    (h : (store.closeApplication application).2 = none)
    (huntouched : store.finish = none → store.estimatedFinish = none → application.Untouched) :
    let closed := (store.closeApplication application).1
    closed.finish = store.finish.or store.estimatedFinish ∧
      (closed.estimated = true ↔ store.finish = none ∧ store.estimatedFinish ≠ none) ∧
      Timed (some closed.start) closed.finish closed.duration closed.elapsed := by
  unfold closeApplication at h ⊢
  obtain ⟨elapsed, htext, hwrite⟩ := write_duration_complete h
  simp only [Application.close, hwrite]
  refine ⟨?_, ?_, timed_between htext⟩
  · cases hobserved : store.finish with
    | some time => rfl
    | none =>
        cases hestimate : store.estimatedFinish with
        | some time => rfl
        | none => exact (huntouched hobserved hestimate).1
  · cases hobserved : store.finish with
    | some time => simp
    | none =>
        cases hestimate : store.estimatedFinish with
        | some time => simp
        | none => simp [(huntouched hobserved hestimate).2]

/-- Correlation that gets through leaves a store correlated if records without an end were
untouched. -/
theorem Untouched.correlated (h : store.Untouched) (hcloses : store.Closes) :
    store.closed.Correlated := by
  have hjob (entry) (hmem : entry ∈ store.jobs.entries) :=
    close_job_correlated (hcloses.jobs entry hmem) (h.jobs entry hmem)
  have hstage (entry) (hmem : entry ∈ store.stages.entries) :=
    close_stage_correlated (hcloses.stages entry hmem) (h.stages entry hmem)
  have hquery (entry) (hmem : entry ∈ store.queries.entries) :=
    close_query_correlated (hcloses.queries entry hmem) (h.queries entry hmem)
  have happlication (application) (hmem : application ∈ store.application) :=
    close_application_correlated (hcloses.application application hmem)
      (h.application application hmem)
  exact
    { jobs := List.forall_mem_map.mpr fun entry hmem => (hjob entry hmem).1
      stages := List.forall_mem_map.mpr fun entry hmem => (hstage entry hmem).1
      queries := List.forall_mem_map.mpr fun entry hmem => (hquery entry hmem).1
      jobsTimed := by
        simp only [closed, Keyed.values, Keyed.mapValues, List.map_map, List.forall_mem_map]
        exact fun entry hmem => (hjob entry hmem).2
      stagesTimed := by
        simp only [closed, Keyed.values, Keyed.mapValues, List.map_map, List.forall_mem_map]
        exact fun entry hmem => (hstage entry hmem).2
      queriesTimed := by
        simp only [closed, Keyed.values, Keyed.mapValues, List.map_map, List.forall_mem_map]
        exact fun entry hmem => (hquery entry hmem).2
      applicationTimed := by
        intro application hmem
        obtain ⟨before, hbefore, rfl⟩ := Option.map_eq_some_iff.mp hmem
        exact (happlication before hbefore).2.2
      finish := by
        intro application hmem time
        obtain ⟨before, hbefore, rfl⟩ := Option.map_eq_some_iff.mp hmem
        rw [(happlication before hbefore).1, Option.or_eq_some_iff, estimated_finish_eq_some_iff]
        rfl
      estimated := by
        intro application hmem
        obtain ⟨before, hbefore, rfl⟩ := Option.map_eq_some_iff.mp hmem
        rw [(happlication before hbefore).2.1, Ne, estimated_finish_eq_none_iff]
        simp only [not_forall, Int.not_le, exists_prop]
        rfl }

end Store

namespace Session

/-- A session keeps records without an end untouched. -/
theorem untouched_run {session : Session} (h : session.store.Untouched)
    (steps : List SessionStep) : (session.run steps).1.store.Untouched :=
  run_store_invariant (fun settings _ event h => h.apply settings event)
    (fun _ h => h.correlate) (fun _ h => h.analyze) (fun _ h => { h with }) h steps

/-- Correlation answers with counts exactly if it gets through. -/
theorem step_correlate_eq {session : Session} {counts : CorrelationCounts}
    (h : (session.step .correlate).2 = .correlated counts) :
    session.store.Closes ∧ (session.step .correlate).1.store = session.store.closed := by
  simp only [step] at h ⊢
  split at h
  · rename_i store hstore
    have hcloses := Store.correlate_complete_iff.mp (congrArg Prod.snd hstore)
    rw [Store.correlate_eq hcloses] at hstore
    exact ⟨hcloses, (congrArg Prod.fst hstore).symm⟩
  · cases h

/-- However events come in and however often correlation ran before in a session, correlation that
gets through leaves the store correlated. -/
theorem run_correlated {index : Int} {settings : Settings} {steps : List SessionStep}
    {counts : CorrelationCounts}
    (h : ((run { index, settings } steps).1.step .correlate).2 = .correlated counts) :
    ((run { index, settings } steps).1.step .correlate).1.store.Correlated := by
  obtain ⟨hcloses, hstore⟩ := step_correlate_eq h
  have hempty : ({} : Store).Untouched := by
    constructor <;> simp [Keyed.empty]
  rw [hstore]
  exact (@untouched_run { index, settings } hempty steps).correlated hcloses

/-- A session in which correlation runs before the job and the application end. -/
def endsBehindCorrelation : List SessionStep :=
  [ .record (.object
      [ ("Event", .text "SparkListenerApplicationStart"), ("App Name", .text "a"),
        ("Timestamp", .int 5) ]),
    .record (.object
      [ ("Event", .text "SparkListenerJobStart"), ("Job ID", .int 1),
        ("Submission Time", .int 10) ]),
    .correlate,
    .record (.object
      [ ("Event", .text "SparkListenerJobEnd"), ("Job ID", .int 1),
        ("Completion Time", .int 40) ]) ]

/-- Behind an early correlation, the job has its end and the application an estimated one. -/
theorem ends_behind_correlation_correlated :
    let last := (run {} endsBehindCorrelation).1.step .correlate
    last.2 = .correlated {} ∧ last.1.store.Correlated ∧
      last.1.store.jobs.values.map (fun job => (job.duration, job.elapsed)) = [(some 30, "30 ms")] ∧
      last.1.store.application.map
          (fun application => (application.finish, application.estimated)) =
        some (some 40, true) := by
  have hcounts : ((run {} endsBehindCorrelation).1.step .correlate).2 = .correlated {} := rfl
  exact ⟨hcounts, run_correlated hcounts, by decide +kernel, by decide +kernel⟩

end Session

end SparkLog
