import SparkLog.Session
import SparkLog.Proofs.Ingestion.Handlers

/-!
# Taking events and records in

What an intake does with one event (`event_cases`) and with one raw record (`record_cases`), case by
case. What every event keeps of a store, a run over raw records keeps (`records_store_invariant`),
and so does every step of a session that takes an event in (`step_store_invariant`). A session keeps
what its events, correlations, analyses and closings keep (`run_store_invariant`), and one without
analyses what the others of these keep (`run_keeps`).
-/

namespace SparkLog

namespace Intake

variable {settings : Settings}

/-- What becomes of an event: it is kept aside, it is handled, it fails in a skippable way and is
counted, or it fails in another way and interrupts. In all cases the store changes as the event
does. -/
theorem event_cases (settings : Settings) (intake : Intake) (event : Event) :
    ∃ store failure, intake.store.apply settings event = (store, failure) ∧
      (event.content = .other ∧ failure = none ∧
          intake.event settings event = (({ intake with store } : Intake).countOther, none) ∨
        event.content ≠ .other ∧ failure = none ∧
          intake.event settings event = (({ intake with store } : Intake).countHandled, none) ∨
        event.content ≠ .other ∧ ∃ cause, failure = some cause ∧
          (cause.isSkippable = true ∧
              intake.event settings event =
                (({ intake with store } : Intake).countFailed,
                  if settings.strict then some cause else none) ∨
            cause.isSkippable = false ∧
              intake.event settings event = ({ intake with store }, some cause))) := by
  cases happly : intake.store.apply settings event with
  | mk store failure =>
      refine ⟨store, failure, rfl, ?_⟩
      cases failure with
      | none =>
          by_cases hother : event.content = .other
          · exact .inl ⟨hother, rfl, by simp [Intake.event, happly, hother]⟩
          · exact .inr (.inl ⟨hother, rfl, by simp [Intake.event, happly]⟩)
      | some cause =>
          have hother : event.content ≠ .other := Store.content_ne_other (congrArg Prod.snd happly)
          refine .inr (.inr ⟨hother, cause, rfl, ?_⟩)
          cases hskip : cause.isSkippable with
          | true => exact .inl ⟨rfl, by simp [Intake.event, happly, hskip]⟩
          | false => exact .inr ⟨rfl, by simp [Intake.event, happly, hskip]⟩

/-- What becomes of a raw record: it interrupts, it is left out and counted, or it is read as an
event that is taken in. Reading leaves the store alone. -/
theorem record_cases (settings : Settings) (intake : Intake) (record : Payload) :
    ∃ reads,
      (∃ failure, readRecord settings.strict intake.reads record = (reads, .error failure) ∧
          intake.record settings record = ({ intake with reads }, some failure)) ∨
        (readRecord settings.strict intake.reads record = (reads, .ok none) ∧
          intake.record settings record = (({ intake with reads } : Intake).countFailed, none)) ∨
        ∃ event, readRecord settings.strict intake.reads record = (reads, .ok (some event)) ∧
          intake.record settings record =
            ({ intake with reads } : Intake).event settings event := by
  unfold Intake.record
  cases readRecord settings.strict intake.reads record with
  | mk reads reading =>
      refine ⟨reads, ?_⟩
      cases reading with
      | error failure => exact .inl ⟨failure, rfl, rfl⟩
      | ok found =>
          cases found with
          | none => exact .inr (.inl ⟨rfl, rfl⟩)
          | some event => exact .inr (.inr ⟨event, rfl, rfl⟩)

/-- Taking an event in changes the store as the event does. -/
theorem event_store {intake : Intake} {event : Event} :
    (intake.event settings event).1.store = (intake.store.apply settings event).1 := by
  obtain ⟨store, failure, happly, ⟨-, -, he⟩ | ⟨-, -, he⟩ | ⟨-, cause, -, ⟨-, he⟩ | ⟨-, he⟩⟩⟩ :=
    event_cases settings intake event
  all_goals simp only [he, happly, countOther, countHandled, countFailed]

/-- Taking an event in is no reading. -/
theorem event_reads (intake : Intake) (event : Event) :
    (intake.event settings event).1.reads = intake.reads := by
  obtain ⟨store, failure, -, ⟨-, -, he⟩ | ⟨-, -, he⟩ | ⟨-, cause, -, ⟨-, he⟩ | ⟨-, he⟩⟩⟩ :=
    event_cases settings intake event
  all_goals simp only [he, countOther, countHandled, countFailed]

/-- An event takes back no failure that was counted. -/
theorem event_failed_mono (intake : Intake) (event : Event) :
    intake.counts.failed ≤ (intake.event settings event).1.counts.failed := by
  obtain ⟨store, failure, -, ⟨-, -, he⟩ | ⟨-, -, he⟩ | ⟨-, cause, -, ⟨-, he⟩ | ⟨-, he⟩⟩⟩ :=
    event_cases settings intake event
  · exact he.symm ▸ Nat.le_refl intake.counts.failed
  · exact he.symm ▸ Nat.le_refl intake.counts.failed
  · exact he.symm ▸ Nat.le_succ intake.counts.failed
  · exact he.symm ▸ Nat.le_refl intake.counts.failed

/-- More records are taken in one part after the other. -/
theorem records_append {intake : Intake} {items others : List Payload} :
    Intake.records settings intake (items ++ others) =
      (Intake.records settings intake items).andThen fun intake =>
        Intake.records settings intake others :=
  Changed.fold_append

/-- What every event keeps of a store, taking a record in keeps. -/
theorem record_store_invariant {P : Store → Prop}
    (hstep : ∀ store event, P store → P (store.apply settings event).1) (intake : Intake)
    (record : Payload) (h : P intake.store) : P (intake.record settings record).1.store := by
  obtain ⟨reads, ⟨failure, -, he⟩ | ⟨-, he⟩ | ⟨event, -, he⟩⟩ := record_cases settings intake record
  · rw [he]
    exact h
  · rw [he]
    exact h
  · rw [he, event_store]
    exact hstep intake.store event h

/-- What every event keeps of a store, taking records in keeps. -/
theorem records_store_invariant {P : Store → Prop}
    (hstep : ∀ store event, P store → P (store.apply settings event).1) {intake : Intake}
    (hstart : P intake.store) (items : List Payload) :
    P (Intake.records settings intake items).1.store :=
  Changed.fold_invariant (P := fun intake : Intake => P intake.store)
    (record_store_invariant hstep) hstart items

/-- What every event keeps of a store, taking events in keeps. -/
theorem events_store_invariant {P : Store → Prop}
    (hstep : ∀ store event, P store → P (store.apply settings event).1) {intake : Intake}
    (hstart : P intake.store) (items : List Event) :
    P (Intake.events settings intake items).1.store := by
  refine Changed.fold_invariant (P := fun intake : Intake => P intake.store)
    (fun intake event h => ?_) hstart items
  rw [event_store]
  exact hstep intake.store event h

end Intake

/-- Whether a step of a session takes an event in. -/
def SessionStep.ingests : SessionStep → Bool
  | .record _ | .event _ => true
  | _ => false

/-- What every event keeps of a store, a step of a session that takes an event in keeps, whether the
event is read by the session or apart from it. -/
theorem Session.step_store_invariant {session : Session} {P : Store → Prop}
    (hevent : ∀ store event, P store → P (store.apply session.settings event).1)
    (h : P session.store) {step : SessionStep} (hingests : step.ingests = true) :
    P (session.step step).1.store := by
  have hrecord (payload : Payload) : P (session.intake.record session.settings payload).1.store :=
    Intake.record_store_invariant hevent session.intake payload h
  cases step with
  | record payload => exact hrecord payload
  | event payload =>
      simp only [Session.step, takeEvent]
      split
      · rename_i event _
        show P (session.intake.event session.settings event).1.store
        rw [Intake.event_store]
        exact hevent session.store event h
      · -- A record without an event is left to the session, which finds nothing in it either.
        exact hrecord .null
      · exact h
  | correlate | estimate | analyze | finalize | inquire => cases hingests

/-- A correlation leaves in a session what it made of the store. -/
theorem Session.step_correlate_store (session : Session) :
    (session.step .correlate).1.store = session.store.correlate.1 := by
  simp only [step]
  split <;> rename_i h <;> rw [h] <;> rfl

/-- What every event, every correlation and every closing keeps of a store, a step of a session
keeps, if analyses keep it or the step is none. -/
theorem Session.step_keeps {session : Session} {P : Store → Prop}
    (hevent : ∀ settings store event, P store → P (store.apply settings event).1)
    (hcorrelate : ∀ store, P store → P store.correlate.1)
    (hfinalize : ∀ store, P store → P store.finalize) (h : P session.store) {step : SessionStep}
    (hanalyze : step = .analyze → ∀ store, P store → P store.analyze) :
    P (session.step step).1.store := by
  cases step with
  | record payload | event payload =>
      exact step_store_invariant (hevent session.settings) h rfl
  | correlate =>
      rw [step_correlate_store]
      exact hcorrelate session.store h
  | analyze => exact hanalyze rfl session.store h
  | finalize => exact hfinalize session.store h
  | estimate => exact h
  | inquire inquiry =>
      simp only [Session.step, inquire]
      split <;> exact h

/-- What every event, every correlation and every closing keeps of a store, a session keeps, if
analyses keep it or there are none. -/
theorem Session.run_keeps {session : Session} {P : Store → Prop}
    (hevent : ∀ settings store event, P store → P (store.apply settings event).1)
    (hcorrelate : ∀ store, P store → P store.correlate.1)
    (hfinalize : ∀ store, P store → P store.finalize) (h : P session.store)
    {steps : List SessionStep}
    (hanalyze : SessionStep.analyze ∈ steps → ∀ store, P store → P store.analyze) :
    P (session.run steps).1.store := by
  induction steps generalizing session with
  | nil => exact h
  | cons step rest ih =>
      refine ih (step_keeps hevent hcorrelate hfinalize h fun hstep => ?_) fun hmem => ?_
      · exact hanalyze (hstep ▸ List.mem_cons_self)
      · exact hanalyze (List.mem_cons_of_mem step hmem)

/-- What every event, every correlation, every analysis and every closing keeps of a store, a
session keeps. -/
theorem Session.run_store_invariant {session : Session} {P : Store → Prop}
    (hevent : ∀ settings store event, P store → P (store.apply settings event).1)
    (hcorrelate : ∀ store, P store → P store.correlate.1)
    (hanalyze : ∀ store, P store → P store.analyze)
    (hfinalize : ∀ store, P store → P store.finalize) (h : P session.store)
    (steps : List SessionStep) : P (session.run steps).1.store :=
  run_keeps hevent hcorrelate hfinalize h fun _ => hanalyze

end SparkLog
