import SparkLog.Proofs.Ingestion.Atomicity
import SparkLog.Proofs.Ingestion.Runs
import SparkLog.Proofs.Log.Reading

/-!
# Strict and tolerant intakes

A strict intake does what a tolerant one does up to the first record that fails, and stops there. So
it gets through exactly if the tolerant one counts no failure, and then to the same state
(`records_strict`); otherwise its store is the one that the tolerant intake has behind the first
record that it counts as failed.
-/

namespace SparkLog

/-- The settings of a strict or of a tolerant run, the same otherwise. -/
abbrev Settings.withStrict (settings : Settings) (strict : Bool) : Settings :=
  { settings with strict }

/-- What an event does to a store does not depend on strictness. -/
theorem Store.apply_with_strict (settings : Settings) (strict : Bool) (store : Store)
    (event : Event) :
    store.apply (settings.withStrict strict) event = store.apply settings event := by
  obtain ⟨name, content, extras⟩ := event
  cases content <;> rfl

namespace Intake

variable {settings : Settings}

/-- A tolerant and a strict intake part: both have changed the store alike, the strict one stops,
and the tolerant one counts one failure more than before. -/
structure Part (failed : Nat) (tolerant strict : Changed Intake) : Prop where
  stops : strict.2.isSome
  store : strict.1.store = tolerant.1.store
  counted : tolerant.1.counts.failed = failed + 1

/-- An event that a tolerant intake gets through is taken in by a strict one alike, or the two
part. -/
theorem event_strict {intake : Intake} {event : Event}
    (hcomplete : (intake.event (settings.withStrict false) event).2 = none) :
    (intake.event (settings.withStrict true) event =
          intake.event (settings.withStrict false) event ∧
        (intake.event (settings.withStrict false) event).1.counts.failed = intake.counts.failed) ∨
      Part intake.counts.failed (intake.event (settings.withStrict false) event)
        (intake.event (settings.withStrict true) event) := by
  unfold Intake.event at hcomplete ⊢
  simp only [Store.apply_with_strict] at hcomplete ⊢
  cases happly : intake.store.apply settings event with
  | mk store failure =>
      rw [happly] at hcomplete
      cases failure with
      | none => cases event.content <;> exact .inl ⟨rfl, rfl⟩
      | some cause =>
          have hother : event.content ≠ .other := Store.content_ne_other (congrArg Prod.snd happly)
          cases hskip : cause.isSkippable with
          | true =>
              simp only [hskip, if_true, Bool.false_eq_true, if_false]
              exact .inr ⟨rfl, rfl, rfl⟩
          | false => simp [hskip] at hcomplete

/-- A record that a tolerant intake gets through is taken in by a strict one alike, or the two
part. -/
theorem record_strict {intake : Intake} {record : Payload}
    (hcomplete : (intake.record (settings.withStrict false) record).2 = none) :
    (intake.record (settings.withStrict true) record =
          intake.record (settings.withStrict false) record ∧
        (intake.record (settings.withStrict false) record).1.counts.failed =
          intake.counts.failed) ∨
      Part intake.counts.failed (intake.record (settings.withStrict false) record)
        (intake.record (settings.withStrict true) record) := by
  unfold Intake.record at hcomplete ⊢
  obtain ⟨reads, ⟨-, event, hread⟩ | ⟨-, failure, hread⟩ | ⟨failure, hread⟩⟩ :=
    read_record_cases intake.reads record
  · rw [hread] at hcomplete ⊢
    rw [hread]
    exact event_strict hcomplete
  · rw [hread, hread]
    exact .inr ⟨rfl, rfl, rfl⟩
  · rw [hread] at hcomplete
    cases hcomplete

/-- Failures that were counted stay counted. -/
theorem records_failed_mono (settings : Settings) (intake : Intake) (items : List Payload) :
    intake.counts.failed ≤ (Intake.records settings intake items).1.counts.failed := by
  have hrecord (current : Intake) (record : Payload) :
      current.counts.failed ≤ (current.record settings record).1.counts.failed := by
    obtain ⟨reads, ⟨failure, -, he⟩ | ⟨-, he⟩ | ⟨event, -, he⟩⟩ :=
      record_cases settings current record
    · exact he.symm ▸ Nat.le_refl current.counts.failed
    · exact he.symm ▸ Nat.le_succ current.counts.failed
    · exact he.symm ▸ event_failed_mono { current with reads } event
  exact Changed.fold_invariant
    (P := fun after : Intake => intake.counts.failed ≤ after.counts.failed)
    (fun current record hle => Nat.le_trans hle (hrecord current record)) (Nat.le_refl _) items

/-- Records that a tolerant intake gets through are taken in by a strict one alike, or the two part
at the first of them that the tolerant one counts as failed. -/
theorem records_strict_cases {intake : Intake} {items : List Payload}
    (hcomplete : (Intake.records (settings.withStrict false) intake items).2 = none) :
    (Intake.records (settings.withStrict true) intake items =
          Intake.records (settings.withStrict false) intake items ∧
        (Intake.records (settings.withStrict false) intake items).1.counts.failed =
          intake.counts.failed) ∨
      ∃ before record after, items = before ++ record :: after ∧
        (Intake.records (settings.withStrict false) intake before).1.counts.failed =
          intake.counts.failed ∧
        Part intake.counts.failed
          (Intake.records (settings.withStrict false) intake (before ++ [record]))
          (Intake.records (settings.withStrict true) intake items) := by
  induction items generalizing intake with
  | nil => exact .inl ⟨rfl, rfl⟩
  | cons record rest ih =>
      have hgoes : (intake.record (settings.withStrict false) record).2 = none :=
        Changed.fold_complete_iff.mp hcomplete [] record rest rfl
      have htolerant (others : List Payload) :
          Intake.records (settings.withStrict false) intake (record :: others) =
            Intake.records (settings.withStrict false)
              (intake.record (settings.withStrict false) record).1 others :=
        Changed.fold_cons_of_complete hgoes others
      obtain ⟨hsame, hfailed⟩ | hpart := record_strict hgoes
      · have hgoes' : (intake.record (settings.withStrict true) record).2 = none := by
          rw [hsame, hgoes]
        have hstrict : Intake.records (settings.withStrict true) intake (record :: rest) =
            Intake.records (settings.withStrict true)
              (intake.record (settings.withStrict true) record).1 rest :=
          Changed.fold_cons_of_complete hgoes' rest
        rw [htolerant] at hcomplete
        rw [htolerant, hstrict, hsame]
        obtain ⟨hrest, hcounted⟩ | ⟨before, failed, after, rfl, hnone, hpart⟩ := ih hcomplete
        · exact .inl ⟨hrest, hcounted.trans hfailed⟩
        · refine .inr ⟨record :: before, failed, after, rfl, ?_, ?_⟩
          · rw [htolerant]
            exact hnone.trans hfailed
          · rw [List.cons_append, htolerant, ← hfailed]
            exact hpart
      · -- The strict intake stops at the first record, whatever comes behind it.
        have hstrict : Intake.records (settings.withStrict true) intake (record :: rest) =
            intake.record (settings.withStrict true) record :=
          Changed.fold_cons_of_stopped hpart.stops rest
        have hone : Intake.records (settings.withStrict false) intake [record] =
            intake.record (settings.withStrict false) record :=
          Changed.fold_singleton
        refine .inr ⟨[], record, rest, rfl, rfl, ?_⟩
        rw [List.nil_append, hstrict, hone]
        exact hpart

/-- Where a tolerant intake gets through its records, a strict one is stopped if and only if the
tolerant one counts a failure. If it is not stopped, both end in the same state; if it is, its store
is the one of the tolerant intake behind the first record that this counts as failed. -/
theorem records_strict {items : List Payload}
    (hcomplete : (Intake.records { settings with strict := false } {} items).2 = none) :
    let tolerant := Intake.records { settings with strict := false } {}
    let strict := Intake.records { settings with strict := true } {} items
    (strict.2.isSome ↔ 0 < (tolerant items).1.counts.failed) ∧
      (strict.2 = none → strict.1 = (tolerant items).1) ∧
      (strict.2.isSome → ∃ before record after, items = before ++ record :: after ∧
        (tolerant before).1.counts.failed = 0 ∧
        (tolerant (before ++ [record])).1.counts.failed = 1 ∧
        strict.1.store = (tolerant (before ++ [record])).1.store) := by
  intro tolerant strict
  obtain ⟨hsame, hfailed⟩ | ⟨before, record, after, rfl, hnone, hpart⟩ :=
    records_strict_cases hcomplete
  · have hgoes : strict.2 = none := (congrArg Prod.snd hsame).trans hcomplete
    refine ⟨iff_of_false ?_ ?_, fun _ => congrArg Prod.fst hsame, fun hstops => ?_⟩
    · rw [hgoes]
      exact Bool.false_ne_true
    · exact Nat.not_lt_of_le (Nat.le_of_eq hfailed)
    · rw [hgoes] at hstops
      cases hstops
  · have hcounted : 0 < (tolerant (before ++ record :: after)).1.counts.failed := by
      -- Behind the record that failed, the count only grows.
      have hfirst : (tolerant (before ++ [record])).2 = none := by
        rw [List.append_cons, records_append] at hcomplete
        exact (Changed.and_then_complete_iff.mp hcomplete).1
      have hwhole : tolerant (before ++ record :: after) = Intake.records
          { settings with strict := false } (tolerant (before ++ [record])).1 after := by
        rw [List.append_cons]
        exact records_append.trans (Changed.and_then_eq hfirst)
      rw [hwhole]
      refine Nat.lt_of_lt_of_le ?_ (records_failed_mono _ _ after)
      rw [hpart.counted]
      exact Nat.succ_pos _
    refine ⟨iff_of_true hpart.stops hcounted, fun hgoes => ?_, fun _ => ?_⟩
    · have hstops := hpart.stops
      rw [hgoes] at hstops
      cases hstops
    · exact ⟨before, record, after, rfl, hnone, hpart.counted, hpart.store⟩

/-- Driver updates of which the second is no pair, between two starts of a log. -/
def updatesBetweenStarts : List Payload :=
  [start "3.4.1", brokenUpdates, start "3.5.0"]
where
  /-- The start of a log. -/
  start (version : String) : Payload :=
    .object [("Event", .text "SparkListenerLogStart"), ("Spark Version", .text version)]

/-- The strict intake stops at the driver updates, with the pair in front of the broken one in its
store, as the tolerant intake has it there. -/
theorem records_strict_between_starts :
    let tolerant := Intake.records { ({} : Settings) with strict := false } {}
    let strict := Intake.records { ({} : Settings) with strict := true } {} updatesBetweenStarts
    (tolerant updatesBetweenStarts).2 = none ∧ strict.2 = some (.tooFewMembers 2 1) ∧
      strict.1.store.version = "3.4.1" ∧ strict.1.store.driverUpdates = [⟨1, 1, 2⟩] ∧
      ∃ before record after, updatesBetweenStarts = before ++ record :: after ∧
        (tolerant before).1.counts.failed = 0 ∧
        (tolerant (before ++ [record])).1.counts.failed = 1 ∧
        strict.1.store = (tolerant (before ++ [record])).1.store := by
  intro tolerant strict
  have hcomplete : (tolerant updatesBetweenStarts).2 = none := by decide +kernel
  have hstops : strict.2 = some (.tooFewMembers 2 1) := by decide +kernel
  have hstrict := @records_strict {} updatesBetweenStarts hcomplete
  exact ⟨hcomplete, hstops, by decide +kernel, by decide +kernel,
    hstrict.2.2 (Option.isSome_of_eq_some hstops)⟩

end Intake

end SparkLog
