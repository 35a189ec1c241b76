import SparkLog.Proofs.Ingestion.Additions
import SparkLog.Proofs.Ingestion.Identifiers

/-!
# Which identifiers events are about

The records that an event adds carry the identifier of the event (`alone_tells`). So events of one
kind with different identifiers add records under different keys, and events of different kinds add
to different families.
-/

namespace SparkLog

/-- What tells events of one kind apart. Of some kinds, a log has one event only. -/
inductive Identifier where
  | sole
  | number (id : Int)
  | text (id : String)
  | attempt (ids : Int × Int)
  | task (ids : Int × Int × Int × Int)
  deriving DecidableEq

namespace EventContent

/-- The identifiers of a stage attempt as integers, if they are such. -/
def attemptOf? (info : Fields) : Option Identifier :=
  match Store.stageIdentifiers info with
  | .ok (stage, attempt) =>
    match Schema.int stage, Schema.int attempt with
    | .ok stage, .ok attempt => some (.attempt (stage, attempt))
    | _, _ => none
  | .error _ => none

/-- The identifiers of a task attempt as integers, if they are such. -/
def taskOf? (stage stageAttempt : Int) (info : Fields) : Option Identifier :=
  match Store.taskIdentifier info with
  | .ok id =>
    match Schema.int id, Schema.int (info.getD "Attempt" (.int 0)) with
    | .ok id, .ok attempt => some (.task (stage, stageAttempt, id, attempt))
    | _, _ => none
  | .error _ => none

/-- The identifier of an event, if it has one and that is valid. Events of the other kinds are
independent of each other. -/
def identifier? : EventContent → Option Identifier
  | .logStart _ | .applicationStart .. | .applicationEnd _ | .environmentUpdate .. => some .sole
  | .resourceProfileAdded id _ _ | .jobStart id .. | .jobEnd id .. | .queryStart id ..
  | .queryEnd id _ => some (.number id)
  | .executorAdded _ id _ => some (.text id)
  | .blockManagerAdded _ manager _ _ _ =>
    (Store.managedExecutor manager).toOption.map Identifier.text
  | .stageSubmitted info _ | .stageCompleted info => attemptOf? info
  | .taskEnd stage stageAttempt _ _ info _ _ => taskOf? stage stageAttempt info
  | _ => none

/-- An event starts a query. -/
def Starts (content : EventContent) (id : Int) : Prop :=
  content.kind = .queryStart ∧ content.identifier? = some (.number id)

/-- An event replaces the plan of a query. -/
def Replans (content : EventContent) (id : Int) : Prop :=
  ∃ planText plan, content = .planUpdate id planText plan

end EventContent

namespace Store

/-- The records of a store are what an event of some content says: one record at most of each
family, of the kind of the event, and with its identifier. -/
structure Tells (content : EventContent) (added : Store) : Prop where
  application : added.application ≠ none → content.kind = .applicationStart
  finish : added.finish ≠ none → content.kind = .applicationEnd
  executors : added.executors.AtMostOne fun entry =>
    content.kind = .executorAdded ∧ content.identifier? = some (.text entry.1)
  blockManagers : added.blockManagers.AtMostOne fun entry =>
    content.kind = .blockManagerAdded ∧ content.identifier? = some (.text entry.1)
  profiles : added.profiles.AtMostOne fun entry =>
    content.kind = .resourceProfileAdded ∧ content.identifier? = some (.number entry.1)
  jobs : added.jobs.AtMostOne fun entry =>
    content.kind = .jobStart ∧ content.identifier? = some (.number entry.1) ∧
      entry.2.id = entry.1
  jobEnds : added.jobEnds.AtMostOne fun entry =>
    content.kind = .jobEnd ∧ content.identifier? = some (.number entry.1)
  stages : added.stages.AtMostOne fun entry =>
    content.kind = .stageSubmitted ∧
      content.identifier? = some (.attempt (entry.2.id, entry.2.attempt)) ∧
      entry.1.Reads (entry.2.id, entry.2.attempt)
  completions : added.completions.AtMostOne fun entry =>
    content.kind = .stageCompleted ∧
      content.identifier? = some (.attempt (entry.2.id, entry.2.attempt)) ∧
      entry.1.Reads (entry.2.id, entry.2.attempt)
  tasks : added.taskKeys = [] ∧ added.tasks = [] ∨
    ∃ key task, added.taskKeys = [key] ∧ added.tasks = [task] ∧ content.kind = .taskEnd ∧
      content.identifier? = some (.task task.identifiers) ∧ key.Reads task.identifiers
  queries : added.queries.AtMostOne fun entry =>
    content.kind = .queryStart ∧ content.identifier? = some (.number entry.1)
  queryEnds : added.queryEnds.AtMostOne fun entry =>
    content.kind = .queryEnd ∧ content.identifier? = some (.number entry.1)
  plans : added.plans.AtMostOne fun entry => content.Replans entry.1 ∨ content.Starts entry.1
  planTexts : added.planTexts.AtMostOne fun entry =>
    content.Replans entry.1 ∨ content.Starts entry.1

/-- The integers that identify a stage attempt are its identifier. -/
theorem Identifies.attempt_of {info : Fields} {key : StageKey} {id attempt : Int}
    (h : Identifies info key id attempt) :
    EventContent.attemptOf? info = some (.attempt (id, attempt)) ∧ key.Reads (id, attempt) := by
  refine ⟨?_, h.reads⟩
  obtain ⟨hids, hid, hattempt⟩ := h
  simp only [EventContent.attemptOf?, hids, hid, hattempt]

/-- The integers that identify a task attempt are its identifier. -/
theorem IdentifiesTask.task_of {stage stageAttempt : Int} {info : Fields} {key : TaskKey}
    {task : Task} (h : IdentifiesTask stage stageAttempt info key task) :
    EventContent.taskOf? stage stageAttempt info = some (.task task.identifiers) ∧
      key.Reads task.identifiers := by
  refine ⟨?_, h.reads⟩
  obtain ⟨hid, hattempt, -, -, htask, htaskAttempt, hnumber, hnumberAttempt⟩ := h
  simp only [EventContent.taskOf?, hid, hattempt, hnumber, hnumberAttempt, Task.identifiers, htask,
    htaskAttempt]

/-- What an event adds carries its identifier. -/
theorem Adds.tells {settings : Settings} {event : Event} {content : EventContent} {added : Store}
    (h : Adds settings event content added) : added.Tells content := by
  have hempty : (({} : Store)).Tells content := by
    constructor <;> simp [Keyed.AtMostOne]
  cases h with
  | applicationStart => exact { hempty with application := fun _ => rfl }
  | applicationEnd => exact { hempty with finish := fun _ => rfl }
  | profile hfound =>
      refine { hempty with
        profiles := Keyed.at_most_one_of_option Keyed.override_by_empty fun entry hmem => ?_ }
      exact ⟨rfl, by rw [hfound entry hmem]; rfl⟩
  | executor hfound =>
      refine { hempty with
        executors := Keyed.at_most_one_of_option Keyed.fill_by_empty fun entry hmem => ?_ }
      exact ⟨rfl, by rw [hfound entry hmem]; rfl⟩
  | blockManager hfound =>
      refine { hempty with
        blockManagers := Keyed.at_most_one_of_option Keyed.fill_by_empty fun entry hmem => ?_ }
      exact ⟨rfl, by simp [EventContent.identifier?, hfound entry hmem, Except.toOption]⟩
  | job hfound =>
      refine { hempty with
        jobs := Keyed.at_most_one_of_option Keyed.fill_by_empty fun entry hmem => ?_ }
      obtain ⟨hkey, hid⟩ := hfound entry hmem
      exact ⟨rfl, by rw [hkey]; rfl, hid.trans hkey.symm⟩
  | jobEnd hfound =>
      refine { hempty with
        jobEnds := Keyed.at_most_one_of_option Keyed.fill_by_empty fun entry hmem => ?_ }
      exact ⟨rfl, by rw [hfound entry hmem]; rfl⟩
  | stage hfound =>
      refine { hempty with
        stages := Keyed.at_most_one_of_option Keyed.fill_by_empty fun entry hmem => ?_ }
      exact ⟨rfl, (hfound entry hmem).attempt_of⟩
  | completion hfound =>
      refine { hempty with
        completions := Keyed.at_most_one_of_option Keyed.override_by_empty fun entry hmem => ?_ }
      exact ⟨rfl, (hfound entry hmem).attempt_of⟩
  | @task _ _ _ _ _ _ _ found hfound =>
      cases found with
      | none => exact { hempty with }
      | some entry =>
          obtain ⟨key, task, reported⟩ := entry
          obtain ⟨hid, hkeys⟩ := (hfound _ rfl).task_of
          exact { hempty with tasks := .inr ⟨key, task, rfl, rfl, rfl, hid, hkeys⟩ }
  | queryStart =>
      exact
        { hempty with
          queries := .inr ⟨_, rfl, rfl, rfl⟩
          plans := .inr ⟨_, rfl, .inr ⟨rfl, rfl⟩⟩
          planTexts := .inr ⟨_, rfl, .inr ⟨rfl, rfl⟩⟩ }
  | queryEnd => exact { hempty with queryEnds := .inr ⟨_, rfl, rfl, rfl⟩ }
  | @planUpdate _ planText plan =>
      exact
        { hempty with
          plans := .inr ⟨_, rfl, .inl ⟨planText, plan, rfl⟩⟩
          planTexts := .inr ⟨_, rfl, .inl ⟨planText, plan, rfl⟩⟩ }
  | _ => exact { hempty with }

/-- What stands alone of an event carries its identifier. -/
theorem alone_tells (settings : Settings) (event : Event) :
    (alone settings event).Tells event.content :=
  (alone_adds settings event).tells

end Store

end SparkLog
