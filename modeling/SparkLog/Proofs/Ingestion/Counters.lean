import Mathlib.Algebra.GroupWithZero.Nat
import SparkLog.Proofs.Ingestion.Interruption

/-!
# Counters balance

The reader of an intake counts records that it meets, reads and leaves out, and names that it sees;
the intake counts what it handles, keeps aside and leaves out. On a run that is not stopped every
record goes to one counter of each (`records_balance`), and the failures that the reader does not
count are those of events that were read.
-/

namespace SparkLog

/-- Whether a record is an object under a name: a value that counts as true. -/
def Payload.isNamed : Payload → Bool
  | .object fields => (Fields.get? fields "Event").any Payload.isTruthy
  | _ => false

/-- A record is looked into exactly if it is named. -/
theorem named_record_is_some (record : Payload) :
    (namedRecord? record).isSome = record.isNamed := by
  cases record with
  | object fields =>
      simp only [namedRecord?, Payload.isNamed]
      cases Fields.get? fields "Event" with
      | none => rfl
      | some name => cases h : name.isTruthy <;> simp [h]
  | _ => rfl

/-! ## Reading -/

/-- What a reader counts for a record that does not stop it: a record without a name is left out,
and a record with one is read or left out once its name is counted. -/
theorem read_record_counts {strict : Bool} {counts reads : ReadCounts} {record : Payload}
    {found : Option Event} (h : readRecord strict counts record = (reads, .ok found)) :
    record.isNamed = false ∧ found = none ∧ reads = counts.countRecord.countFailed ∨
      record.isNamed = true ∧ ∃ name,
        (found = none ∧ reads = (counts.countRecord.countType name).countFailed ∨
          found.isSome ∧ reads = (counts.countRecord.countType name).countParsed) := by
  rw [← named_record_is_some]
  unfold readRecord at h
  cases hnamed : namedRecord? record with
  | none =>
      rw [hnamed] at h
      obtain ⟨rfl, hreading⟩ := Prod.mk.inj h
      refine .inl ⟨rfl, ?_, rfl⟩
      cases strict with
      | true => cases hreading
      | false => exact (Except.ok.inj hreading).symm
  | some named =>
      obtain ⟨fields, name⟩ := named
      refine .inr ⟨rfl, ?_⟩
      simp only [hnamed] at h
      cases name with
      | text text =>
          refine ⟨.text text, ?_⟩
          have hkey : Scalar.ofPayload (.text text) = .ok (.text text) := rfl
          simp only [hkey] at h
          cases hevent : Event.ofFields text (normalize fields) with
          | ok event =>
              simp only [hevent] at h
              obtain ⟨rfl, hreading⟩ := Prod.mk.inj h
              obtain rfl := Except.ok.inj hreading
              exact .inr ⟨rfl, rfl⟩
          | error failure =>
              simp only [hevent] at h
              obtain ⟨rfl, hreading⟩ := Prod.mk.inj h
              cases strict with
              | true => cases hreading
              | false => exact .inl ⟨(Except.ok.inj hreading).symm, rfl⟩
      -- A list or an object is no key, and any other name that is no text has no short form.
      | _ => cases h

/-- Counting one more under a key adds one to the sum of the counts. -/
theorem Keyed.sum_values_insert_by {κ : Type} {same : κ → κ → Bool} (table : Keyed κ Nat)
    (key : κ) : (table.insertBy same key ((table.findBy? same key).getD 0 + 1)).values.sum =
      table.values.sum + 1 := by
  obtain ⟨entries⟩ := table
  induction entries with
  | nil => rfl
  | cons entry rest ih =>
      simp only [insertBy, values, putBy, findBy?, List.find?_cons] at ih ⊢
      cases same entry.1 key with
      | true =>
          show entry.2 + 1 + (rest.map Prod.snd).sum = entry.2 + (rest.map Prod.snd).sum + 1
          omega
      | false =>
          simp only [Bool.false_eq_true, if_false, List.map_cons, List.sum_cons]
          rw [ih, Nat.add_assoc]

/-- The counts of a reader balance over the records that it met. -/
structure ReadCounts.Balances (counts : ReadCounts) (records : List Payload) : Prop where
  total : counts.total = records.length
  outcomes : counts.parsed + counts.failed = records.length
  types : counts.types.values.sum = records.countP Payload.isNamed

/-- Counting a name adds one to the counts of all names. -/
theorem ReadCounts.sum_count_type (counts : ReadCounts) (name : Scalar) :
    (counts.countType name).types.values.sum = counts.types.values.sum + 1 :=
  counts.types.sum_values_insert_by name

/-- A record that does not stop a reader keeps its counts balanced. -/
theorem ReadCounts.Balances.read {strict : Bool} {counts reads : ReadCounts}
    {records : List Payload} {record : Payload} {found : Option Event}
    (h : counts.Balances records) (hread : readRecord strict counts record = (reads, .ok found)) :
    reads.Balances (records ++ [record]) := by
  have htotal : counts.total + 1 = (records ++ [record]).length := by
    rw [List.length_append, h.total, List.length_singleton]
  have houtcomes : counts.parsed + counts.failed + 1 = (records ++ [record]).length := by
    rw [List.length_append, h.outcomes, List.length_singleton]
  have hparsed : counts.parsed + 1 + counts.failed = (records ++ [record]).length := by
    rw [Nat.add_right_comm, houtcomes]
  rcases read_record_counts hread with ⟨hnamed, -, rfl⟩ | ⟨hnamed, name, ⟨-, rfl⟩ | ⟨-, rfl⟩⟩
  · have htypes : counts.types.values.sum = (records ++ [record]).countP Payload.isNamed := by
      simp [h.types, hnamed]
    exact { total := htotal, outcomes := houtcomes, types := htypes }
  all_goals
    have htypes : (counts.countRecord.countType name).types.values.sum =
        (records ++ [record]).countP Payload.isNamed := by
      rw [sum_count_type]
      simp [countRecord, h.types, hnamed]
  · exact { total := htotal, outcomes := houtcomes, types := htypes }
  · exact { total := htotal, outcomes := hparsed, types := htypes }

/-- A reader counts a failure exactly for a record that it leaves out. -/
theorem read_record_failed {strict : Bool} {counts reads : ReadCounts} {record : Payload}
    {found : Option Event} (h : readRecord strict counts record = (reads, .ok found)) :
    reads.failed = if found.isSome then counts.failed else counts.failed + 1 := by
  rcases read_record_counts h with ⟨-, rfl, rfl⟩ | ⟨-, name, ⟨rfl, rfl⟩ | ⟨hfound, rfl⟩⟩
  · rfl
  · rfl
  · rw [if_pos hfound]
    rfl

/-! ## Taking in -/

namespace Intake

variable {settings : Settings}

/-- The counts of an intake balance over the records that it took in: its reader's do, every record
is counted once, the events kept aside are as many as counted, and what the reader left out is
counted as failed. -/
structure Balances (intake : Intake) (records : List Payload) : Prop where
  reads : intake.reads.Balances records
  counted : intake.counted = records.length
  others : intake.CountsOthers
  failed : intake.reads.failed ≤ intake.counts.failed

/-- Nothing is counted before the first record. -/
theorem balances_empty : ({} : Intake).Balances [] where
  reads := { total := rfl, outcomes := rfl, types := rfl }
  counted := rfl
  others := rfl
  failed := Nat.le_refl 0

/-- A record that an intake gets through keeps its counts balanced. -/
theorem Balances.record {intake : Intake} {records : List Payload} (h : intake.Balances records)
    {record : Payload} (hcomplete : (intake.record settings record).2 = none) :
    (intake.record settings record).1.Balances (records ++ [record]) := by
  have hcounted : (intake.record settings record).1.counted = (records ++ [record]).length := by
    rw [record_counted hcomplete, h.counted, List.length_append, List.length_singleton]
  have hothers : (intake.record settings record).1.CountsOthers :=
    record_counts_others h.others record
  obtain ⟨reads, ⟨failure, -, he⟩ | ⟨hread, he⟩ | ⟨event, hread, he⟩⟩ :=
    record_cases settings intake record
  · rw [he] at hcomplete
    cases hcomplete
  all_goals
    rw [he] at hcounted hothers ⊢
    have hreads := h.reads.read hread
    have hfailed := read_record_failed hread
  · -- The reader and the intake both count the record as failed.
    have hle : reads.failed ≤ intake.counts.failed + 1 := by
      rw [hfailed]
      exact Nat.succ_le_succ h.failed
    exact { reads := hreads, counted := hcounted, others := hothers, failed := hle }
  · -- The reader counts no failure, and the intake may count one for the event.
    have hsame : (({ intake with reads } : Intake).event settings event).1.reads = reads :=
      event_reads _ event
    refine { reads := hsame.symm ▸ hreads, counted := hcounted, others := hothers, failed := ?_ }
    rw [hsame, hfailed]
    exact Nat.le_trans h.failed (event_failed_mono { intake with reads } event)

/-- An intake that gets through its records has counted each of them once, and so has its reader;
the names that were seen are those of the named records, and the events that were read are those
that were handled, kept aside, or failed without a failure of the reader. -/
theorem records_balance {items : List Payload}
    (hcomplete : (Intake.records settings {} items).2 = none) :
    let intake := (Intake.records settings {} items).1
    intake.reads.total = items.length ∧
      intake.reads.parsed + intake.reads.failed = items.length ∧
      intake.reads.types.values.sum = items.countP Payload.isNamed ∧
      intake.counts.handled + intake.counts.other + intake.counts.failed = items.length ∧
      intake.counts.other = intake.store.others.length ∧
      intake.reads.failed ≤ intake.counts.failed ∧
      intake.reads.parsed = intake.counts.handled + intake.counts.other +
        (intake.counts.failed - intake.reads.failed) := by
  intro intake
  have hbalances : intake.Balances items :=
    Changed.fold_history (P := Balances) (fun _ _ _ h hone => h.record hone) balances_empty
      hcomplete
  have hcounted : intake.counts.handled + intake.counts.other + intake.counts.failed =
      items.length := hbalances.counted
  refine ⟨hbalances.reads.total, hbalances.reads.outcomes, hbalances.reads.types, hcounted,
    hbalances.others, hbalances.failed, ?_⟩
  have houtcomes := hbalances.reads.outcomes
  have hfailed := hbalances.failed
  omega

/-- A start of a log, an event of no declared kind, a record without a name, an event without the
fields of its kind, and driver updates of which one is no pair. -/
def mixedRecords : List Payload :=
  [ versionRecord, .object [("Event", .text "SparkListenerUnheardOf")],
    .object [("Event", .text "")], .object [("Event", .text "SparkListenerJobStart")],
    .object
      [ ("Event", .text "SparkListenerDriverAccumUpdates"), ("executionId", .int 1),
        ("accumUpdates", .list [.list [.int 3]]) ] ]

/-- Of five records, four have a name; the reader leaves two out and the intake fails at one of the
three events. -/
theorem mixed_records_balance :
    let intake := (Intake.records {} {} mixedRecords).1
    (Intake.records {} {} mixedRecords).2 = none ∧ intake.reads.parsed = 3 ∧
      intake.reads.failed = 2 ∧ intake.reads.types.values.sum = 4 ∧ intake.counts = ⟨1, 1, 3⟩ ∧
      intake.reads.parsed = intake.counts.handled + intake.counts.other +
        (intake.counts.failed - intake.reads.failed) := by
  intro intake
  have hcomplete : (Intake.records {} {} mixedRecords).2 = none := by decide +kernel
  have hcounts : intake.reads.parsed = 3 ∧ intake.reads.failed = 2 ∧
      intake.reads.types.values.sum = 4 ∧ intake.counts = ⟨1, 1, 3⟩ := by
    decide +kernel
  obtain ⟨-, -, -, -, -, -, hparsed⟩ := records_balance hcomplete
  exact ⟨hcomplete, hcounts.1, hcounts.2.1, hcounts.2.2.1, hcounts.2.2.2, hparsed⟩

end Intake

end SparkLog
