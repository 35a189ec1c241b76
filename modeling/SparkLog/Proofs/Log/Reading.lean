import SparkLog.Log.Reader

/-!
# What readers make of a record

A tolerant and a strict reader count a record alike, and differ only in what they do with one that
is left out (`read_record_cases`).
-/

namespace SparkLog

/-- What becomes of a record: both readers read an event from it, the strict reader stops where the
tolerant one leaves it out, or both stop. Only a record that is left out is counted as failed. -/
theorem read_record_cases (counts : ReadCounts) (record : Payload) :
    ∃ reads,
      (reads.failed = counts.failed ∧
          ∃ event, ∀ strict, readRecord strict counts record = (reads, .ok (some event))) ∨
        (reads.failed = counts.failed + 1 ∧
          ∃ failure, ∀ strict, readRecord strict counts record =
            (reads, if strict then .error failure else .ok none)) ∨
        ∃ failure, ∀ strict, readRecord strict counts record = (reads, .error failure) := by
  unfold readRecord
  cases namedRecord? record with
  | none => exact ⟨_, .inr (.inl ⟨rfl, .unnamedEvent, fun _ => rfl⟩)⟩
  | some named =>
      obtain ⟨fields, name⟩ := named
      cases name with
      | text text =>
          have hkey : Scalar.ofPayload (.text text) = .ok (.text text) := rfl
          cases hevent : Event.ofFields text (normalize fields) with
          | ok event =>
              refine ⟨(counts.countRecord.countType (.text text)).countParsed,
                .inl ⟨rfl, event, fun strict => ?_⟩⟩
              simp only [hkey, hevent]
          | error failure =>
              refine ⟨(counts.countRecord.countType (.text text)).countFailed,
                .inr (.inl ⟨rfl, failure, fun strict => ?_⟩)⟩
              simp only [hkey, hevent, leaveOut]
      -- A list or an object is no key, and any other name that is no text has no short form.
      | _ => exact ⟨_, .inr (.inr ⟨_, fun _ => rfl⟩)⟩

end SparkLog
