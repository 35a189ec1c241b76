import SparkLog.Proofs.Distinct
import SparkLog.Proofs.Ingestion.Families

/-!
# What events tell

The key and the record that an event tells, read from its content alone (`EventContent.job?` and the
others); a record that cannot be read is told as its failure. What becomes of it in a store follows
one of few policies: the first record of a key stays (`Fills`), the last one does (`Overrides`), or
a record comes behind those before. There is one lemma for each family of the store
(`jobs_entered` and the others) that says which policy it follows and what it is told.
-/

namespace SparkLog

/-! ## Entries -/

namespace EventContent

/-- The application that an event starts. -/
def application? : EventContent → Option Application
  | .applicationStart name id time user _ =>
    some { name, id := id.getD "", user, start := time }
  | _ => none

/-- The end of the application that an event observes. -/
def finish? : EventContent → Option Int
  | .applicationEnd time => some time
  | _ => none

/-- The executor that an event adds. -/
def executor? : EventContent → Option (String × Except Failure Executor)
  | .executorAdded time id info =>
    some (id, Schema.accept "ExecutorRecord" <|
      (fun host cores profile => { id, host, cores, profile, added := time })
        <$> Schema.text (info.getD "Host" (.text ""))
        <*> Schema.int (info.getD "Total Cores" (.int 0))
        <*> Schema.int (info.getD "Resource Profile Identifier" (.int 0)))
  | _ => none

/-- The block manager that an event adds, under its executor. -/
def blockManager? : EventContent → Option (String × Except Failure BlockManager)
  | .blockManagerAdded time manager memory onHeap offHeap =>
    (Store.managedExecutor manager).toOption.map fun executor =>
      (executor, Schema.accept "BlockManagerRecord" <|
        (fun host => { executor, host, memory, onHeap, offHeap, time })
          <$> Schema.text (manager.getD "Host" (.text "")))
  | _ => none

/-- The resource profile that an event adds. -/
def profile? : EventContent → Option (Int × Except Failure ResourceProfile)
  | .resourceProfileAdded id executor task =>
    let read := Schema.optional Schema.float
    some (id, Schema.accept "ResourceProfileRecord" <|
      ResourceProfile.mk id
        <$> read (Store.amount executor "cores")
        <*> read (Store.amount executor "memory")
        <*> read (Store.amount executor "gpu")
        <*> read (Store.amount executor "offHeap")
        <*> read (Store.amount task "cpus")
        <*> read (Store.amount task "gpu"))
  | _ => none

/-- The job that an event starts. Its stages are those of the event, each at its first place. -/
def job? : EventContent → Option (Int × Except Failure Job)
  | .jobStart id start stages _ properties =>
    some (id, (fun query => { id, start, stages := stages.eraseDups, query })
      <$> Store.queryOfProperties (properties.getD []))
  | _ => none

/-- The end of a job that an event observes. -/
def jobEnd? : EventContent → Option (Int × Except Failure JobEnd)
  | .jobEnd id time result =>
    let message : Payload :=
      match (result.getD []).find "Exception" with
      | .object exception => Fields.find exception "Message"
      | _ => .null
    some (id, Schema.accept "JobEndRecord" <|
      JobEnd.mk id time
        <$> Schema.optional Schema.text ((result.getD []).find "Result")
        <*> Schema.optional Schema.text message)
  | _ => none

/-- The key of the stage attempt that some information is about. -/
def attemptKey? (info : Fields) : Option StageKey :=
  (Store.stageIdentifiers info >>= fun ids => Store.stageKey ids.1 ids.2).toOption

/-- The stage attempt that an event submits. -/
def stage? : EventContent → Option (StageKey × Except Failure Stage)
  | .stageSubmitted info _ =>
    (attemptKey? info).map fun key =>
      (key, Schema.accept "StageRecord" <|
        (fun id attempt name tasks submitted => { id, attempt, name, tasks, submitted })
          <$> Schema.int key.stage.toPayload
          <*> Schema.int key.attempt.toPayload
          <*> Schema.text (info.getD "Stage Name" (.text ""))
          <*> Schema.int (info.getD "Number of Tasks" (.int 0))
          <*> Schema.optional Schema.int (info.find "Submission Time"))
  | _ => none

/-- The completion of a stage attempt that an event observes. -/
def completion? : EventContent → Option (StageKey × Except Failure StageCompletion)
  | .stageCompleted info =>
    (attemptKey? info).map fun key =>
      (key, Schema.accept "StageCompletedRecord" <|
        StageCompletion.mk
          <$> Schema.int key.stage.toPayload
          <*> Schema.int key.attempt.toPayload
          <*> Schema.optional Schema.int (info.find "Submission Time")
          <*> Schema.optional Schema.int (info.find "Completion Time")
          <*> Schema.optional Schema.text (info.find "Failure Reason"))
  | _ => none

/-- The key of the task attempt whose end an event observes, as the log writes it. -/
def taskKey? : EventContent → Option TaskKey
  | .taskEnd stage stageAttempt _ _ info _ _ =>
    (Store.taskIdentifier info >>= fun id =>
      Store.taskKey stage stageAttempt id (info.getD "Attempt" (.int 0))).toOption
  | _ => none

/-- The task whose end an event observes. -/
def task? : EventContent → Option (Except Failure Task)
  | .taskEnd stage stageAttempt type reason info metrics _ =>
    some (taskOfEnd stage stageAttempt type reason info metrics)
  | _ => none

/-- The accumulables that the end of a task or the completion of a stage attempt reports. -/
def reported? : EventContent → Option (Except Failure (List Accumulable))
  | .stageCompleted info =>
    (attemptKey? info).map fun key =>
      accumulables key.stage.toPayload key.attempt.toPayload .null (info.find "Accumulables")
  | .taskEnd stage stageAttempt _ _ info _ _ =>
    some (accumulables (.int stage) (.int stageAttempt) (info.find "Task ID")
      (info.find "Accumulables"))
  | _ => none

/-- The query that an event starts. -/
def query? : EventContent → Option (Int × Except Failure Query)
  | .queryStart id description details _ _ time =>
    some (id, .ok { id, description, details, start := time })
  | _ => none

/-- The end of a query that an event observes. -/
def queryEnd? : EventContent → Option (Int × Except Failure Int)
  | .queryEnd id time => some (id, .ok time)
  | _ => none

/-- The plan of a query that an event tells, with the text of it: the first one comes with the
start of the query, later ones while it runs. -/
def plan? : EventContent → Option (Int × PlanTree × String)
  | .queryStart id _ _ planText plan _ => some (id, plan, planText)
  | .planUpdate id planText plan => some (id, plan, planText)
  | _ => none

/-- The query that an event starts, by its identifier. -/
def started? (content : EventContent) : Option Int :=
  content.query?.map Prod.fst

end EventContent

/-- Two events have the same key of some kind. -/
def Event.repeats {κ : Type} (key? : EventContent → Option κ) (same : κ → κ → Bool)
    (later earlier : Event) : Bool :=
  (key? later.content).any fun key => (key? earlier.content).any fun other => same key other

/-- Having the same key is transitive if being the same is. -/
theorem Event.repeats_trans {κ : Type} {key? : EventContent → Option κ} {same : κ → κ → Bool}
    (htrans : ∀ a b c, same a b = true → same b c = true → same a c = true) (a b c : Event)
    (hab : a.repeats key? same b = true) (hbc : b.repeats key? same c = true) :
    a.repeats key? same c = true := by
  simp only [repeats, Option.any_eq_true] at hab hbc ⊢
  obtain ⟨key, hkey, other, hother, hsame⟩ := hab
  obtain ⟨_, hagain, third, hthird, hsame'⟩ := hbc
  obtain rfl := Option.some.inj (hother.symm.trans hagain)
  exact ⟨key, hkey, third, hthird, htrans _ _ _ hsame hsame'⟩

/-! ## Policies -/

namespace Keyed

variable {κ α : Type}

/-- What an event does to a family where the first record of a key stays. If the event tells a
record, it fails or the key is known, and the family is as before; or the record can be read and is
put in. -/
def Fills (same : κ → κ → Bool) (table after : Keyed κ α) (outcome : Option Failure) :
    Option (κ × Except Failure α) → Prop
  | none => after = table
  | some (key, record) =>
    after = table ∧ (outcome ≠ none ∨ (table.findBy? same key).isSome) ∨
      outcome = none ∧ table.findBy? same key = none ∧
        ∃ value, record = .ok value ∧ after = table.insertBy same key value

/-- What an event does to a family where the last record of a key stays. If the event tells a
record, it fails and the family is as before, or the record can be read and is put in. -/
def Overrides (same : κ → κ → Bool) (table after : Keyed κ α) (outcome : Option Failure) :
    Option (κ × Except Failure α) → Prop
  | none => after = table
  | some (key, record) =>
    after = table ∧ outcome ≠ none ∨
      outcome = none ∧ ∃ value, record = .ok value ∧ after = table.insertBy same key value

/-- Of a record that is kept from several kinds of events, there is none of the other kinds. -/
theorem AtMostOne.none_of {table : Keyed κ α} {P : κ × α → Prop} (h : table.AtMostOne P)
    (hnot : ∀ entry, ¬ P entry) : table.entries = [] :=
  h.resolve_right fun ⟨entry, _, hholds⟩ => hnot entry hholds

end Keyed

namespace Store

variable {settings : Settings} {store : Store} {event : Event}

section Policies

variable {κ α β : Type} {same : κ → κ → Bool}

/-- Events of other kinds leave a family as it was where the first record of a key stays. -/
theorem fill_stays (family : Store → Keyed κ α)
    (hfamily : ∀ store event, family (store.absorb settings event) =
      (family store).fillBy same (family (alone settings event)).entries)
    {P : κ × α → Prop} (htells : (family (alone settings event)).AtMostOne P)
    (hnot : ∀ entry, ¬ P entry) : family (store.apply settings event).1 = family store := by
  rw [apply_eq_absorb, hfamily, htells.none_of hnot, Keyed.fill_by_nil]

/-- Events of other kinds leave a family as it was where the last record of a key stays. -/
theorem override_stays (family : Store → Keyed κ α)
    (hfamily : ∀ store event, family (store.absorb settings event) =
      (family store).overrideBy same (family (alone settings event)).entries)
    {P : κ × α → Prop} (htells : (family (alone settings event)).AtMostOne P)
    (hnot : ∀ entry, ¬ P entry) : family (store.apply settings event).1 = family store := by
  rw [apply_eq_absorb, hfamily, htells.none_of hnot, Keyed.override_by_nil]

/-- A handler that puts a record in unless its key is known keeps the first record of a key. -/
theorem of_result_fills (family : Store → Keyed κ α) (put : Keyed κ α → Store)
    (hfamily : ∀ table, family (put table) = table) (key : κ) (make : β → α)
    (record : Except Failure β) {told : Except Failure α} (htold : told = make <$> record) :
    let changed := Changed.ofResult store
      (if ((family store).findBy? same key).isSome then pure store
        else record >>= fun value => pure (put ((family store).insertBy same key (make value))))
    (family store).Fills same (family changed.1) changed.2 (some (key, told)) := by
  cases hknown : (family store).findBy? same key with
  | some value => exact .inl ⟨rfl, .inr (by rw [hknown]; rfl)⟩
  | none =>
      cases record with
      | error failure => exact .inl ⟨rfl, .inl (Option.some_ne_none failure)⟩
      | ok value => exact .inr ⟨rfl, hknown, make value, htold, hfamily _⟩

end Policies

/-! ## Families -/

/-- An event that fails tells none of the records that are always readable. -/
theorem facts_of_failed (h : (store.apply settings event).2 ≠ none) :
    event.content.application? = none ∧ event.content.finish? = none ∧
      event.content.version? = none ∧ event.content.properties = [] ∧
      event.content.query? = none ∧ event.content.plan? = none := by
  obtain ⟨name, content, extras⟩ := event
  cases content with
  | logStart | applicationStart | applicationEnd | environmentUpdate | queryStart | planUpdate =>
      exact absurd rfl h
  | _ => exact ⟨rfl, rfl, rfl, rfl, rfl, rfl⟩

/-- The application is kept from the first event that starts one. -/
theorem application_entered : (store.apply settings event).1.application =
    store.application.or event.content.application? := by
  suffices halone : (alone settings event).application = event.content.application? by
    rw [apply_eq_absorb, ← halone]
    rfl
  have htells := (alone_tells settings event).application
  obtain ⟨name, content, extras⟩ := event
  cases content with
  | applicationStart => rfl
  | _ => exact by_contra fun h => EventKind.noConfusion (htells h)

/-- The end of the application is kept from the first event that observes it. -/
theorem finish_entered : (store.apply settings event).1.finish =
    store.finish.or event.content.finish? := by
  suffices halone : (alone settings event).finish = event.content.finish? by
    rw [apply_eq_absorb, ← halone]
    rfl
  have htells := (alone_tells settings event).finish
  obtain ⟨name, content, extras⟩ := event
  cases content with
  | applicationEnd => rfl
  | _ => exact by_contra fun h => EventKind.noConfusion (htells h)

/-- Executors are kept from the first event of a key. -/
theorem executors_entered : store.executors.Fills (· == ·) (store.apply settings event).1.executors
    (store.apply settings event).2 event.content.executor? := by
  have hstay (hkind : event.content.kind ≠ .executorAdded) :
      (store.apply settings event).1.executors = store.executors :=
    fill_stays (·.executors) (fun _ _ => rfl) (alone_tells settings event).executors
      fun _ h => hkind h.1
  obtain ⟨name, content, extras⟩ := event
  cases content with
  | executorAdded time id info =>
      exact of_result_fills (·.executors) (fun executors => { store with executors })
        (fun _ => rfl) id (fun executor => executor) _ (id_map' _).symm
  | _ => exact hstay fun h => EventKind.noConfusion h

/-- Block managers are kept from the first event of an executor. -/
theorem block_managers_entered :
    store.blockManagers.Fills (· == ·) (store.apply settings event).1.blockManagers
      (store.apply settings event).2 event.content.blockManager? := by
  have hstay (hkind : event.content.kind ≠ .blockManagerAdded) :
      (store.apply settings event).1.blockManagers = store.blockManagers :=
    fill_stays (·.blockManagers) (fun _ _ => rfl) (alone_tells settings event).blockManagers
      fun _ h => hkind h.1
  obtain ⟨name, content, extras⟩ := event
  cases content with
  | blockManagerAdded time manager memory onHeap offHeap =>
      simp only [EventContent.blockManager?, apply, addBlockManager]
      cases managedExecutor manager with
      | error failure => rfl
      | ok executor =>
          exact of_result_fills (·.blockManagers)
            (fun blockManagers => { store with blockManagers }) (fun _ => rfl) executor
            (fun blockManager => blockManager) _ (id_map' _).symm
  | _ => exact hstay fun h => EventKind.noConfusion h

/-- Jobs are kept from the first event of a key. -/
theorem jobs_entered : store.jobs.Fills (· == ·) (store.apply settings event).1.jobs
    (store.apply settings event).2 event.content.job? := by
  have hstay (hkind : event.content.kind ≠ .jobStart) :
      (store.apply settings event).1.jobs = store.jobs :=
    fill_stays (·.jobs) (fun _ _ => rfl) (alone_tells settings event).jobs fun _ h => hkind h.1
  obtain ⟨name, content, extras⟩ := event
  cases content with
  | jobStart id start stages infos properties =>
      simp only [EventContent.job?, ← distinct_eq_erase_dups]
      exact of_result_fills (·.jobs) (fun jobs => { store with jobs }) (fun _ => rfl) id _ _ rfl
  | _ => exact hstay fun h => EventKind.noConfusion h

/-- Ends of jobs are kept from the first event of a key. -/
theorem job_ends_entered : store.jobEnds.Fills (· == ·) (store.apply settings event).1.jobEnds
    (store.apply settings event).2 event.content.jobEnd? := by
  have hstay (hkind : event.content.kind ≠ .jobEnd) :
      (store.apply settings event).1.jobEnds = store.jobEnds :=
    fill_stays (·.jobEnds) (fun _ _ => rfl) (alone_tells settings event).jobEnds
      fun _ h => hkind h.1
  obtain ⟨name, content, extras⟩ := event
  cases content with
  | jobEnd id time result =>
      exact of_result_fills (·.jobEnds) (fun jobEnds => { store with jobEnds }) (fun _ => rfl) id
        (fun jobEnd => jobEnd) _ (id_map' _).symm
  | _ => exact hstay fun h => EventKind.noConfusion h

/-- Stage attempts are kept from the first event of a key. -/
theorem stages_entered : store.stages.Fills StageKey.agrees (store.apply settings event).1.stages
    (store.apply settings event).2 event.content.stage? := by
  have hstay (hkind : event.content.kind ≠ .stageSubmitted) :
      (store.apply settings event).1.stages = store.stages :=
    fill_stays (·.stages) (fun _ _ => rfl) (alone_tells settings event).stages
      fun _ h => hkind h.1
  obtain ⟨name, content, extras⟩ := event
  cases content with
  | stageSubmitted info properties =>
      simp only [EventContent.stage?, EventContent.attemptKey?, apply, addStage]
      cases stageIdentifiers info with
      | error failure => rfl
      | ok ids =>
          obtain ⟨stage, attempt⟩ := ids
          simp only [bind, Except.bind]
          cases hkey : stageKey stage attempt with
          | error failure => rfl
          | ok key =>
              obtain ⟨rfl, rfl⟩ := stage_key_eq_ok_iff.mp hkey
              exact of_result_fills (·.stages) (fun stages => { store with stages }) (fun _ => rfl)
                key (fun stage => stage) _ (id_map' _).symm
  | _ => exact hstay fun h => EventKind.noConfusion h

/-- Queries are kept from the first event of a key. -/
theorem queries_entered : store.queries.Fills (· == ·) (store.apply settings event).1.queries
    (store.apply settings event).2 event.content.query? := by
  have hstay (hkind : event.content.kind ≠ .queryStart) :
      (store.apply settings event).1.queries = store.queries :=
    fill_stays (·.queries) (fun _ _ => rfl) (alone_tells settings event).queries
      fun _ h => hkind h.1
  obtain ⟨name, content, extras⟩ := event
  cases content with
  | queryStart id description details planText plan time =>
      cases hfound : store.queries.find? id with
      | some query =>
          exact .inl ⟨by simp [apply, addQuery, Keyed.has, hfound],
            .inr (Option.isSome_of_mem hfound)⟩
      | none =>
          exact .inr ⟨rfl, hfound, _, rfl, by
            simp [apply, addQuery, Keyed.has, hfound, Keyed.insert]⟩
  | _ => exact hstay fun h => EventKind.noConfusion h

/-- Ends of queries are kept from the first event of a key. -/
theorem query_ends_entered : store.queryEnds.Fills (· == ·) (store.apply settings event).1.queryEnds
    (store.apply settings event).2 event.content.queryEnd? := by
  have hstay (hkind : event.content.kind ≠ .queryEnd) :
      (store.apply settings event).1.queryEnds = store.queryEnds :=
    fill_stays (·.queryEnds) (fun _ _ => rfl) (alone_tells settings event).queryEnds
      fun _ h => hkind h.1
  obtain ⟨name, content, extras⟩ := event
  cases content with
  | queryEnd id time =>
      cases hfound : store.queryEnds.find? id with
      | some other =>
          exact .inl ⟨by simp [apply, Keyed.insertNew, Keyed.has, hfound],
            .inr (Option.isSome_of_mem hfound)⟩
      | none =>
          exact .inr ⟨rfl, hfound, time, rfl,
            by simp [apply, Keyed.insertNew, Keyed.has, hfound, Keyed.insert]⟩
  | _ => exact hstay fun h => EventKind.noConfusion h

/-- Resource profiles are kept from the last event of a key. -/
theorem profiles_entered : store.profiles.Overrides (· == ·) (store.apply settings event).1.profiles
    (store.apply settings event).2 event.content.profile? := by
  have hstay (hkind : event.content.kind ≠ .resourceProfileAdded) :
      (store.apply settings event).1.profiles = store.profiles :=
    override_stays (·.profiles) (fun _ _ => rfl) (alone_tells settings event).profiles
      fun _ h => hkind h.1
  obtain ⟨name, content, extras⟩ := event
  cases content with
  | resourceProfileAdded id executor task =>
      simp only [EventContent.profile?, apply, addProfile]
      cases Schema.accept "ResourceProfileRecord" _ with
      | error failure => exact .inl ⟨rfl, Option.some_ne_none failure⟩
      | ok profile => exact .inr ⟨rfl, profile, rfl, rfl⟩
  | _ => exact hstay fun h => EventKind.noConfusion h

/-- Completions of stage attempts are kept from the last event of a key. -/
theorem completions_entered :
    store.completions.Overrides StageKey.agrees (store.apply settings event).1.completions
      (store.apply settings event).2 event.content.completion? := by
  have hstay (hkind : event.content.kind ≠ .stageCompleted) :
      (store.apply settings event).1.completions = store.completions :=
    override_stays (·.completions) (fun _ _ => rfl) (alone_tells settings event).completions
      fun _ h => hkind h.1
  obtain ⟨name, content, extras⟩ := event
  cases content with
  | stageCompleted info =>
      simp only [EventContent.completion?, EventContent.attemptKey?, apply, addCompletion]
      cases stageIdentifiers info with
      | error failure => rfl
      | ok ids =>
          obtain ⟨stage, attempt⟩ := ids
          simp only [bind, Except.bind]
          cases hkey : stageKey stage attempt with
          | error failure => rfl
          | ok key =>
              obtain ⟨rfl, rfl⟩ := stage_key_eq_ok_iff.mp hkey
              simp only
              cases SparkLog.accumulables _ _ _ _ with
              | error failure => exact .inl ⟨rfl, Option.some_ne_none failure⟩
              | ok reported =>
                  simp only [Except.toOption, Option.map_some]
                  cases Schema.accept "StageCompletedRecord" _ with
                  | error failure => exact .inl ⟨rfl, Option.some_ne_none failure⟩
                  | ok completion => exact .inr ⟨rfl, completion, rfl, rfl⟩
  | _ => exact hstay fun h => EventKind.noConfusion h

/-- Properties are kept from the last event of a key. -/
theorem properties_entered : (store.apply settings event).1.properties =
    store.properties.overrideBy (· == ·) event.content.properties := by
  rw [apply_eq_absorb]
  rfl

/-- The version is kept from the last event that names one. -/
theorem version_entered : (store.apply settings event).1.version =
    event.content.version?.getD store.version := by
  rw [apply_eq_absorb]
  rfl

/-- Events that neither start a query nor replace a plan leave a family of plans as it was. -/
theorem PlansLike.stays {α : Type} {plansOf : Store → Keyed Int α}
    (h : PlansLike plansOf settings)
    (hnot : ∀ id, ¬ (event.content.Replans id ∨ event.content.Starts id)) :
    plansOf (store.apply settings event).1 = plansOf store := by
  rw [apply_eq_absorb, h.absorb, (h.tells event).none_of fun entry => hnot entry.1]
  split <;> rfl

/-- The start of a query that is known does nothing to plans. Any other event that tells a plan puts
it in, with its text. -/
theorem plans_entered :
    (store.apply settings event).1.plans =
        (if event.content.query?.any (fun entry => store.queries.has entry.1) then store.plans
          else store.plans.overrideBy (· == ·)
            (event.content.plan?.map fun entry => (entry.1, entry.2.1)).toList) ∧
      (store.apply settings event).1.planTexts =
        if event.content.query?.any (fun entry => store.queries.has entry.1) then store.planTexts
        else store.planTexts.overrideBy (· == ·)
          (event.content.plan?.map fun entry => (entry.1, entry.2.2)).toList := by
  have hstay (hnot : ∀ id, ¬ (event.content.Replans id ∨ event.content.Starts id)) :
      (store.apply settings event).1.plans = store.plans ∧
        (store.apply settings event).1.planTexts = store.planTexts :=
    ⟨plans_like.stays hnot, plan_texts_like.stays hnot⟩
  obtain ⟨name, content, extras⟩ := event
  cases content with
  | queryStart id description details planText plan time =>
      cases hknown : store.queries.has id <;>
        simp [apply, addQuery, EventContent.query?, EventContent.plan?, hknown, Keyed.insert]
  | planUpdate id planText plan => exact ⟨rfl, rfl⟩
  | _ => exact hstay (by rintro id (⟨_, _, h⟩ | ⟨h, -⟩) <;> cases h)

/-! ## Tasks and accumulables -/

/-- Only ends of tasks and completions of stage attempts report accumulables. -/
theorem Adds.accumulables {content : EventContent} {added : Store}
    (h : Adds settings event content added) (htask : content.kind ≠ .taskEnd)
    (hcompletion : content.kind ≠ .stageCompleted) : added.accumulables = [] := by
  cases h with
  | task => exact absurd rfl htask
  | completion => exact absurd rfl hcompletion
  | _ => rfl

/-- Tasks and accumulables are as before. -/
structure SameTasks (store after : Store) : Prop where
  taskKeys : after.taskKeys = store.taskKeys
  tasks : after.tasks = store.tasks
  accumulables : after.accumulables = store.accumulables

/-- Behind the tasks and accumulables of before is what a content tells. -/
structure MoreTasks (content : EventContent) (store after : Store) : Prop where
  taskKeys : after.taskKeys = store.taskKeys ++ content.taskKey?.toList
  tasks : after.tasks.map Except.ok = store.tasks.map .ok ++ content.task?.toList
  accumulables : ∃ reported : List (List Accumulable),
    content.reported?.toList = reported.map .ok ∧
      after.accumulables = store.accumulables ++ reported.flatten

/-- A content observes the end of a task attempt whose key is known. -/
def knowsEnd (store : Store) (content : EventContent) : Bool :=
  content.taskKey?.any fun key => store.taskKeys.any key.agrees

/-- What an event of some content does to tasks and accumulables. If it fails, or observes the end
of a task attempt whose key is known, it leaves them as they were; otherwise it puts behind them
what it tells. -/
def EntersTasks (store : Store) (content : EventContent) (changed : Changed Store) : Prop :=
  store.SameTasks changed.1 ∧ (changed.2 ≠ none ∨ store.knowsEnd content = true) ∨
    changed.2 = none ∧ store.knowsEnd content = false ∧ MoreTasks content store changed.1

/-- A handler that fails leaves tasks and accumulables as they were. -/
theorem enters_tasks_of_failure (content : EventContent) (failure : Failure) :
    store.EntersTasks content (Changed.ofResult store (.error failure)) :=
  .inl ⟨⟨rfl, rfl, rfl⟩, .inl (Option.some_ne_none failure)⟩

/-- A content that tells nothing about tasks leaves nothing to be done. -/
theorem SameTasks.enters {content : EventContent} {changed : Changed Store}
    (h : store.SameTasks changed.1) (hkey : content.taskKey? = none) (htask : content.task? = none)
    (hreported : content.reported? = none) : store.EntersTasks content changed := by
  by_cases hdone : changed.2 = none
  · refine .inr ⟨hdone, by simp [knowsEnd, hkey], ?_, ?_, [], ?_, ?_⟩
    · simp [h.taskKeys, hkey]
    · simp [h.tasks, htask]
    · simp [hreported]
    · simp [h.accumulables]
  · exact .inl ⟨h, .inl hdone⟩

/-- Events of other kinds leave tasks and accumulables as they were. -/
theorem tasks_stay (htask : event.content.kind ≠ .taskEnd)
    (hcompletion : event.content.kind ≠ .stageCompleted) :
    store.SameTasks (store.apply settings event).1 := by
  have haccumulables := (alone_adds settings event).accumulables htask hcompletion
  obtain ⟨hkeys, htasks⟩ | ⟨key, task, -, -, hkind, -⟩ := (alone_tells settings event).tasks
  · rw [apply_eq_absorb]
    exact ⟨by simp [task_keys_absorb, hkeys], by simp [tasks_absorb, htasks],
      by simp [accumulables_absorb, haccumulables]⟩
  · exact absurd hkind htask

/-- What the completion of a stage attempt does to tasks and accumulables. -/
theorem add_completion_enters (info : Fields) :
    store.EntersTasks (.stageCompleted info)
      (Changed.ofResult store (store.addCompletion info)) := by
  have hfails := @enters_tasks_of_failure store (.stageCompleted info)
  unfold addCompletion
  cases hids : stageIdentifiers info with
  | error failure => exact hfails failure
  | ok ids =>
      obtain ⟨stage, attempt⟩ := ids
      simp only [bind, Except.bind]
      cases hkey : stageKey stage attempt with
      | error failure => exact hfails failure
      | ok key =>
          have hattempt : EventContent.attemptKey? info = some key := by
            simp only [EventContent.attemptKey?, hids, bind, Except.bind, hkey, Except.toOption]
          obtain ⟨rfl, rfl⟩ := stage_key_eq_ok_iff.mp hkey
          cases hreported : SparkLog.accumulables key.stage.toPayload key.attempt.toPayload .null
              (info.find "Accumulables") with
          | error failure => exact hfails failure
          | ok reported =>
              simp only
              cases Schema.accept "StageCompletedRecord" _ with
              | error failure => exact hfails failure
              | ok completion =>
                  refine .inr ⟨rfl, rfl, ?_, ?_, [reported], ?_, ?_⟩
                  · simp [pure, Except.pure, Changed.ofResult, EventContent.taskKey?]
                  · simp [pure, Except.pure, Changed.ofResult, EventContent.task?]
                  · simp [EventContent.reported?, hattempt, hreported]
                  · simp [pure, Except.pure, Changed.ofResult]

/-- What the end of a task attempt does to tasks and accumulables. -/
theorem add_task_enters (stage stageAttempt : Int) (type : String) (reason info : Fields)
    (metrics executorMetrics : Option Fields) :
    store.EntersTasks (.taskEnd stage stageAttempt type reason info metrics executorMetrics)
      (Changed.ofResult store
        (store.addTask stage stageAttempt type reason info metrics)) := by
  have hfails := @enters_tasks_of_failure store
    (.taskEnd stage stageAttempt type reason info metrics executorMetrics)
  unfold addTask
  cases hid : taskIdentifier info with
  | error failure => exact hfails failure
  | ok id =>
      simp only [bind, Except.bind]
      cases hkey : taskKey stage stageAttempt id (info.getD "Attempt" (.int 0)) with
      | error failure => exact hfails failure
      | ok key =>
          have htold : (EventContent.taskEnd stage stageAttempt type reason info metrics
              executorMetrics).taskKey? = some key := by
            simp only [EventContent.taskKey?, hid, bind, Except.bind, hkey, Except.toOption]
          simp only
          cases hknown : store.taskKeys.any (TaskKey.agrees key) with
          | true => exact .inl ⟨⟨rfl, rfl, rfl⟩, .inr (by simpa [knowsEnd, htold] using hknown)⟩
          | false =>
              cases htask : taskOfEnd stage stageAttempt type reason info metrics with
              | error failure => exact hfails failure
              | ok task =>
                  simp only
                  cases hreported : SparkLog.accumulables (.int stage) (.int stageAttempt) id
                      (info.find "Accumulables") with
                  | error failure => exact hfails failure
                  | ok reported =>
                      refine .inr ⟨rfl, by simpa [knowsEnd, htold] using hknown, ?_, ?_, [reported],
                        ?_, ?_⟩
                      · simp [pure, Except.pure, Changed.ofResult, htold]
                      · simp [pure, Except.pure, Changed.ofResult, EventContent.task?, htask]
                      · simp [EventContent.reported?, find_of_task_identifier hid, hreported]
                      · simp [pure, Except.pure, Changed.ofResult]

/-- Tasks are kept from the first event of a key, and accumulables from the same events and from
completions of stage attempts. -/
theorem tasks_entered : store.EntersTasks event.content (store.apply settings event) := by
  have hstay := @tasks_stay settings store event
  obtain ⟨name, content, extras⟩ := event
  cases content with
  | stageCompleted info => exact add_completion_enters info
  | taskEnd stage stageAttempt type reason info metrics executorMetrics =>
      exact add_task_enters stage stageAttempt type reason info metrics executorMetrics
  | _ =>
      have hsame := hstay (fun h => EventKind.noConfusion h) fun h => EventKind.noConfusion h
      exact hsame.enters rfl rfl rfl

end Store

end SparkLog
