import SparkLog.Proofs.Derivation.Analysis
import SparkLog.Proofs.Derivation.Correlation
import SparkLog.Proofs.Ingestion.Entries
import SparkLog.Proofs.Ingestion.Growth

/-!
# The kept task table

The first metric inquiry on a closed store keeps the task table that it forms, and later ones are
answered from it, whatever was taken in meanwhile. The table that is kept lies between the tasks of
the last closing and those of the store: it starts with the former, and the latter start with it
(`Session.Spans`). This holds over every step (`Session.spans_step`) and every run
(`Session.spans_run`). The tasks of the store change only where a further end of a task attempt is
accepted (`Session.step_tasks_iff`). So as long as none is, answers are those of the store as it is
(`Session.inquire_live`).
-/

namespace SparkLog

/-- The reply that an answer makes. -/
def StepReply.ofAnswer : Except Failure Reply → StepReply
  | .ok answer => .reply answer
  | .error failure => .failed failure

/-- The event that a step takes in, under given settings. -/
def SessionStep.event? (settings : Settings) : SessionStep → Option Event
  | .record payload =>
    match (readRecord settings.strict {} payload).2 with
    | .ok found => found
    | .error _ => none
  | .event payload => readEvent? payload
  | _ => none

namespace Store

variable {store : Store} {settings : Settings} {event : Event}

/-- Whether an event is accepted as the end of a task attempt: it is one, it does not fail, and the
attempt was not known. -/
def acceptsTask (store : Store) (settings : Settings) (event : Event) : Bool :=
  event.content.kind == .taskEnd && (store.apply settings event).2.isNone &&
    !store.knowsEnd event.content

/-- An event tells of a task exactly if it is the end of a task attempt. -/
theorem task_is_some_iff (content : EventContent) :
    content.task?.isSome = true ↔ content.kind = .taskEnd := by
  cases content with
  | taskEnd => exact iff_of_true rfl rfl
  | _ => simp [EventContent.task?, EventContent.kind]

/-- An event leaves the tasks alone exactly if it is not accepted as the end of a task attempt. -/
theorem apply_tasks_iff : (store.apply settings event).1.tasks = store.tasks ↔
    store.acceptsTask settings event = false := by
  unfold acceptsTask
  obtain ⟨hsame, hreason⟩ | ⟨hdone, hnew, hmore⟩ := @tasks_entered settings store event
  · refine iff_of_true hsame.tasks ?_
    obtain hfailed | hknown := hreason
    · simp [hfailed]
    · simp [hknown]
  · have htasks := hmore.tasks
    have hkind := task_is_some_iff event.content
    cases htask : event.content.task? with
    | none =>
        rw [htask, Option.toList_none, List.append_nil] at htasks
        refine iff_of_true (List.map_injective_iff.mpr (fun _ _ => Except.ok.inj) htasks) ?_
        have hother : event.content.kind ≠ .taskEnd := by simp [← hkind, htask]
        simp [hother]
    | some task =>
        have hlength := congrArg List.length htasks
        simp only [htask, List.length_map, List.length_append, Option.toList_some,
          List.length_singleton] at hlength
        refine iff_of_false (fun hsame => ?_) ?_
        · rw [hsame] at hlength
          omega
        · simp [hkind.mp (by simp [htask]), hdone, hnew]

/-- A task of a store was there before an event, or the event tells it. -/
theorem mem_apply_tasks {task : Task} (h : task ∈ (store.apply settings event).1.tasks) :
    task ∈ store.tasks ∨ event.content.task? = some (.ok task) := by
  obtain ⟨hsame, -⟩ | ⟨-, -, hmore⟩ := @tasks_entered settings store event
  · exact .inl (hsame.tasks ▸ h)
  · have hmem := List.mem_map_of_mem (f := Except.ok (ε := Failure)) h
    rw [hmore.tasks, List.mem_append, List.mem_map_of_injective fun _ _ => Except.ok.inj,
      Option.mem_toList] at hmem
    exact hmem

end Store

namespace Session

/-- An inquiry is answered from the store and the task table of a session. -/
theorem inquire_answer (session : Session) (inquiry : Inquiry) :
    (session.inquire inquiry).2 = .ofAnswer
      (inquiry.ask session.store session.settings session.index session.tasks) := by
  unfold inquire
  cases inquiry.ask session.store session.settings session.index session.tasks <;>
    simp only <;> split <;> rfl

/-! ## What a session keeps -/

/-- A step changes neither the number nor the settings of a session. -/
theorem step_same (session : Session) (step : SessionStep) :
    (session.step step).1.index = session.index ∧
      (session.step step).1.settings = session.settings := by
  cases step with
  | event payload =>
      simp only [Session.step, takeEvent]
      split <;> exact ⟨rfl, rfl⟩
  | correlate =>
      simp only [Session.step]
      split <;> exact ⟨rfl, rfl⟩
  | inquire inquiry =>
      simp only [Session.step, inquire]
      split <;> exact ⟨rfl, rfl⟩
  | record | estimate | analyze | finalize => exact ⟨rfl, rfl⟩

/-- A run changes neither the number nor the settings of a session. -/
theorem run_same (session : Session) (steps : List SessionStep) :
    (session.run steps).1.index = session.index ∧
      (session.run steps).1.settings = session.settings := by
  induction steps generalizing session with
  | nil => exact ⟨rfl, rfl⟩
  | cons step rest ih =>
      have hrest := ih (session.step step).1
      rw [(session.step_same step).1, (session.step_same step).2] at hrest
      exact hrest

/-! ## Accepted tasks -/

/-- Whether a step has the end of a task attempt accepted. -/
def acceptsTask (session : Session) (step : SessionStep) : Bool :=
  (step.event? session.settings).any (session.store.acceptsTask session.settings)

/-- Whether some of the steps that a session takes has the end of a task attempt accepted. -/
def acceptsTasks (session : Session) : List SessionStep → Bool
  | [] => false
  | step :: rest => session.acceptsTask step || (session.step step).1.acceptsTasks rest

/-- A record changes the tasks as the event in it does. -/
theorem record_tasks (session : Session) (payload : Payload) :
    (session.step (.record payload)).1.store.tasks =
      ((SessionStep.record payload).event? session.settings).elim session.store.tasks
        fun event => (session.store.apply session.settings event).1.tasks := by
  have hstore : (session.step (.record payload)).1.store =
      (session.intake.record session.settings payload).1.store := rfl
  have hevent? : (SessionStep.record payload).event? session.settings =
      match (readRecord session.settings.strict session.intake.reads payload).2 with
      | .ok found => found
      | .error _ => none := by
    rw [read_record_reading _ session.intake.reads]
    rfl
  rw [hstore, hevent?]
  obtain ⟨reads, ⟨failure, hread, hrecord⟩ | ⟨hread, hrecord⟩ | ⟨event, hread, hrecord⟩⟩ :=
    Intake.record_cases session.settings session.intake payload
  · rw [hrecord, hread]
    rfl
  · rw [hrecord, hread]
    rfl
  · rw [hrecord, hread, Intake.event_store]
    rfl

/-- A step changes the tasks as the event in it does, and leaves them alone without one. -/
theorem step_tasks (session : Session) (step : SessionStep) :
    (session.step step).1.store.tasks =
      (step.event? session.settings).elim session.store.tasks
        fun event => (session.store.apply session.settings event).1.tasks := by
  cases step with
  | record payload => exact session.record_tasks payload
  | event payload =>
      have hevent? : (SessionStep.event payload).event? session.settings =
          match (readRecord false {} payload).2 with
          | .ok found => found
          | .error _ => none := rfl
      rw [hevent?]
      simp only [step, takeEvent]
      cases hread : (readRecord false {} payload).2 with
      | error failure => rfl
      | ok found =>
          cases found with
          | none =>
              -- A record without an event is left to the session, which finds nothing in it either.
              have hnull : (SessionStep.record .null).event? session.settings = none := by
                unfold SessionStep.event?
                cases session.settings.strict <;> rfl
              exact (session.record_tasks .null).trans (congrArg (Option.elim · _ _) hnull)
          | some event => exact congrArg Store.tasks Intake.event_store
  | correlate =>
      obtain ⟨_, _, _, _, hform⟩ := session.store.correlate_form
      rw [step_correlate_store, hform]
      rfl
  | analyze =>
      have hstore : (session.step .analyze).1.store = session.store.analyze := rfl
      rw [hstore, Store.analyze_eq]
      rfl
  | inquire inquiry =>
      simp only [step, inquire]
      split <;> rfl
  | estimate | finalize => rfl

/-- Where no end of a task attempt is accepted, and only there, a step leaves the tasks alone. -/
theorem step_tasks_iff (session : Session) (step : SessionStep) :
    (session.step step).1.store.tasks = session.store.tasks ↔
      session.acceptsTask step = false := by
  rw [step_tasks, acceptsTask]
  cases step.event? session.settings with
  | none => exact iff_of_true rfl rfl
  | some event => exact Store.apply_tasks_iff

/-- Where no end of a task attempt is accepted, a run leaves the tasks alone. -/
theorem run_tasks {session : Session} {steps : List SessionStep}
    (h : session.acceptsTasks steps = false) :
    (session.run steps).1.store.tasks = session.store.tasks := by
  induction steps generalizing session with
  | nil => rfl
  | cons step rest ih =>
      obtain ⟨hstep, hrest⟩ := Bool.or_eq_false_iff.mp h
      exact (ih hrest).trans ((session.step_tasks_iff step).mpr hstep)

/-- A task of a session was there before a step, or the event in the step tells it. -/
theorem mem_step_tasks {session : Session} {step : SessionStep} {task : Task}
    (h : task ∈ (session.step step).1.store.tasks) : task ∈ session.store.tasks ∨
      ∃ event, step.event? session.settings = some event ∧
        event.content.task? = some (.ok task) := by
  rw [step_tasks] at h
  cases hevent : step.event? session.settings with
  | none =>
      rw [hevent] at h
      exact .inl h
  | some event =>
      rw [hevent] at h
      exact (Store.mem_apply_tasks h).imp_right fun htold => ⟨event, rfl, htold⟩

/-- A task of a session was there before a run, or some step of it tells the task. -/
theorem mem_run_tasks {session : Session} {steps : List SessionStep} {task : Task}
    (h : task ∈ (session.run steps).1.store.tasks) : task ∈ session.store.tasks ∨
      ∃ step ∈ steps, ∃ event, step.event? session.settings = some event ∧
        event.content.task? = some (.ok task) := by
  induction steps generalizing session with
  | nil => exact .inl h
  | cons step rest ih =>
      have hrest : task ∈ ((session.step step).1.run rest).1.store.tasks := h
      obtain hkept | ⟨later, hlater, event, hevent, htold⟩ := ih hrest
      · exact (mem_step_tasks hkept).imp_right fun htold => ⟨step, List.mem_cons_self, htold⟩
      · rw [(session.step_same step).2] at hevent
        exact .inr ⟨later, List.mem_cons_of_mem _ hlater, event, hevent, htold⟩

/-! ## The table that is kept -/

/-- The task table of a session starts with given tasks, and the tasks of its store start with
it. -/
structure Spans (session : Session) (tasks : List Task) : Prop where
  first : tasks <+: session.tasks
  last : session.tasks <+: session.store.tasks

/-- A session without a kept table spans what its store starts with. -/
theorem spans_of_none {session : Session} {tasks : List Task} (htable : session.taskTable = none)
    (h : tasks <+: session.store.tasks) : session.Spans tasks := by
  have hsame : session.tasks = session.store.tasks := by
    rw [Session.tasks, htable, Option.getD_none]
  exact ⟨hsame ▸ h, hsame ▸ List.prefix_rfl⟩

/-- A session that spans given tasks spans them still when its store has grown and its table is
kept, dropped, or formed from what the session had. -/
theorem Spans.mono {session later : Session} {tasks : List Task} (h : session.Spans tasks)
    (hgrows : session.store.tasks <+: later.store.tasks)
    (htable : later.taskTable = session.taskTable ∨ later.taskTable = none ∨
      later.taskTable = some session.tasks) : later.Spans tasks := by
  have hlast : session.tasks <+: later.store.tasks := h.last.trans hgrows
  obtain hkept | hdropped | hformed := htable
  · cases htasks : session.taskTable with
    | none => exact spans_of_none (hkept.trans htasks) (h.first.trans hlast)
    | some table =>
        have hsame : later.tasks = session.tasks := by
          rw [Session.tasks, Session.tasks, hkept, htasks, Option.getD_some, Option.getD_some]
        exact ⟨hsame ▸ h.first, hsame ▸ hlast⟩
  · exact spans_of_none hdropped (h.first.trans hlast)
  · have hsame : later.tasks = session.tasks := by rw [Session.tasks, hformed, Option.getD_some]
    exact ⟨hsame ▸ h.first, hsame ▸ hlast⟩

/-- Over a step the tasks of the store only get more, and the table is kept, dropped, or formed from
what the session had. -/
theorem step_kept (session : Session) (step : SessionStep) :
    session.store.tasks <+: (session.step step).1.store.tasks ∧
      ((session.step step).1.taskTable = session.taskTable ∨
        (session.step step).1.taskTable = none ∨
        (session.step step).1.taskTable = some session.tasks) := by
  have hidle (h : session.acceptsTask step = false) :
      session.store.tasks <+: (session.step step).1.store.tasks :=
    (session.step_tasks_iff step).mpr h ▸ List.prefix_rfl
  cases step with
  | record payload => exact ⟨(session.step_grows_into rfl).tasks, .inl rfl⟩
  | event payload =>
      refine ⟨(session.step_grows_into rfl).tasks, .inl ?_⟩
      simp only [Session.step, takeEvent]
      split <;> rfl
  | correlate =>
      refine ⟨hidle rfl, .inl ?_⟩
      simp only [Session.step]
      split <;> rfl
  | inquire inquiry =>
      refine ⟨hidle rfl, ?_⟩
      simp only [Session.step, inquire]
      split
      · exact .inr (.inr rfl)
      · exact .inl rfl
  | finalize => exact ⟨hidle rfl, .inr (.inl rfl)⟩
  | estimate | analyze => exact ⟨hidle rfl, .inl rfl⟩

/-- A step keeps what a session spans. -/
theorem spans_step {session : Session} {tasks : List Task} (h : session.Spans tasks)
    (step : SessionStep) : (session.step step).1.Spans tasks :=
  h.mono (session.step_kept step).1 (session.step_kept step).2

/-- A run keeps what a session spans. -/
theorem spans_run {session : Session} {tasks : List Task} (h : session.Spans tasks)
    (steps : List SessionStep) : (session.run steps).1.Spans tasks := by
  induction steps generalizing session with
  | nil => exact h
  | cons step rest ih => exact ih (spans_step h step)

/-- However a session went up to a closing, and whatever it takes behind it without a further end of
a task attempt that is accepted, an inquiry is answered from the store and the tasks as they are. -/
theorem inquire_live (index : Int) (settings : Settings) (before after : List SessionStep)
    (hafter : ((run { index, settings } before).1.step .finalize).1.acceptsTasks after = false)
    (inquiry : Inquiry) :
    let session := (((run { index, settings } before).1.step .finalize).1.run after).1
    (session.inquire inquiry).2 = .ofAnswer
      (inquiry.ask session.store settings index session.store.tasks) := by
  intro session
  have htasks : session.store.tasks =
      ((run { index, settings } before).1.step .finalize).1.store.tasks := run_tasks hafter
  have hspans : session.Spans session.store.tasks :=
    htasks ▸ spans_run (spans_of_none rfl List.prefix_rfl) after
  have htable : session.tasks = session.store.tasks :=
    hspans.last.eq_of_length_le hspans.first.length_le
  have hbefore := run_same { index, settings } before
  have hsession := run_same ((run { index, settings } before).1.step .finalize).1 after
  have hindex : session.index = index := hsession.1.trans hbefore.1
  have hsettings : session.settings = settings := hsession.2.trans hbefore.2
  rw [inquire_answer, htable, hindex, hsettings]

/-- The end of a task of the first stage. -/
def endedTask (id finish : Int) : SessionStep :=
  .record (.object
    [ ("Event", .text "SparkListenerTaskEnd"), ("Stage ID", .int 1), ("Stage Attempt ID", .int 0),
      ("Task End Reason", .object []),
      ("Task Info", .object
        [("Task ID", .int id), ("Launch Time", .int 5), ("Finish Time", .int finish)]) ])

/-- The submission of a stage. -/
def submittedStage (id : Int) : SessionStep :=
  .record (.object
    [ ("Event", .text "SparkListenerStageSubmitted"),
      ("Stage Info", .object [("Stage ID", .int id)]) ])

/-- An inquiry that keeps the table, then the task ends again, at another time, and another stage is
submitted. -/
def behindClosing : List SessionStep :=
  [.inquire .jobMetrics, endedTask 7 8, submittedStage 2]

/-- The task that ended again is not accepted, so the stages are answered about from the store. -/
theorem behind_closing_inquire_live :
    let closed := ((run {} [endedTask 7 9, submittedStage 1]).1.step .finalize).1
    let session := (closed.run behindClosing).1
    (closed.acceptsTasks behindClosing = false ∧ session.taskTable.map List.length = some 1 ∧
      session.store.stages.entries.length = 2 ∧
      (Metrics.stageTable session.store 1 session.store.tasks).toOption.map (·.rows.length) =
        some 1) ∧
      (session.inquire .stageMetrics).2 = .ofAnswer
        (Inquiry.stageMetrics.ask session.store {} 1 session.store.tasks) := by
  intro closed session
  have hruns : closed.acceptsTasks behindClosing = false ∧
      session.taskTable.map List.length = some 1 ∧ session.store.stages.entries.length = 2 ∧
      (Metrics.stageTable session.store 1 session.store.tasks).toOption.map (·.rows.length) =
        some 1 := by
    decide +kernel
  exact ⟨hruns, inquire_live 1 {} _ behindClosing hruns.1 .stageMetrics⟩

end Session

end SparkLog
