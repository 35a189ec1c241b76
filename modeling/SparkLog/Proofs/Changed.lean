import SparkLog.Changed

/-!
# Laws of changes that may be stopped

`fold_invariant` carries what every step keeps to the whole run, `fold_complete_iff` says that a run
gets through all items exactly when no item stops it in the state that the items before it lead to.
What is kept of a value and of the items it has seen, a run that is not stopped carries to all of
them (`fold_history`).
-/

namespace SparkLog.Changed

variable {α β : Type} {step : α → β → Changed α}

variable {next : α → Changed α} {changed : Changed α}

/-- A change goes on if it was not stopped. -/
theorem and_then_eq (h : changed.2 = none) : changed.andThen next = next changed.1 := by
  obtain ⟨value, failure⟩ := changed
  obtain rfl : failure = none := h
  rfl

/-- A change that goes on gets through exactly if both of its parts do. -/
theorem and_then_complete_iff :
    (changed.andThen next).2 = none ↔ changed.2 = none ∧ (next changed.1).2 = none := by
  obtain ⟨value, failure⟩ := changed
  cases failure <;> simp [andThen]

/-- What holds after a first part and is kept by what comes next holds in the end, whether the
first part was stopped or not. -/
theorem and_then_invariant {P : α → Prop} (h : P changed.1)
    (hnext : ∀ value, P value → P (next value).1) : P (changed.andThen next).1 := by
  obtain ⟨value, failure⟩ := changed
  cases failure with
  | none => exact hnext value h
  | some failure => exact h

/-- A run goes on behind a first item that does not stop it. -/
theorem fold_cons_of_complete {value : α} {item : β} (h : (step value item).2 = none)
    (rest : List β) : fold step value (item :: rest) = fold step (step value item).1 rest := by
  rw [fold]
  cases hs : step value item with
  | mk next failure =>
      obtain rfl : failure = none := by simpa [hs] using h
      rfl

/-- A run ends at a first item that stops it. -/
theorem fold_cons_of_stopped {value : α} {item : β} (h : (step value item).2.isSome)
    (rest : List β) : fold step value (item :: rest) = step value item := by
  rw [fold]
  cases hs : step value item with
  | mk next failure =>
      obtain ⟨cause, rfl⟩ : ∃ cause, failure = some cause := by
        simpa [hs, Option.isSome_iff_exists] using h
      rfl

/-- A run over one item is a step. -/
theorem fold_singleton {value : α} {item : β} : fold step value [item] = step value item := by
  rw [fold]
  cases step value item with
  | mk next failure => cases failure <;> rfl

/-- A run over more items goes on where the run over the first of them ends. -/
theorem fold_append {value : α} {items others : List β} :
    fold step value (items ++ others) =
      (fold step value items).andThen fun value => fold step value others := by
  induction items generalizing value with
  | nil => rfl
  | cons item rest ih =>
      simp only [List.cons_append, fold]
      cases hs : step value item with
      | mk next failure =>
          cases failure with
          | none => exact ih
          | some failure => rfl

/-- A run over one item more takes one more step. -/
theorem fold_concat {value : α} {items : List β} {item : β} :
    fold step value (items ++ [item]) =
      (fold step value items).andThen fun value => step value item := by
  rw [fold_append]
  exact congrArg _ (funext fun value => fold_singleton)

/-- What every step keeps, a run keeps, whether it is stopped or not. -/
theorem fold_invariant {P : α → Prop} (hstep : ∀ value item, P value → P (step value item).1)
    {value : α} (h : P value) (items : List β) : P (fold step value items).1 := by
  induction items generalizing value with
  | nil => exact h
  | cons item rest ih =>
      have hnext := hstep value item h
      simp only [fold]
      cases hs : step value item with
      | mk next failure =>
          rw [hs] at hnext
          cases failure with
          | none => exact ih hnext
          | some failure => exact hnext

/-- A run is not stopped exactly when no item stops it where the items before it lead to. -/
theorem fold_complete_iff {value : α} {items : List β} :
    (fold step value items).2 = none ↔
      ∀ before item after, items = before ++ item :: after →
        (step (fold step value before).1 item).2 = none := by
  induction items generalizing value with
  | nil => simp [fold]
  | cons item rest ih =>
      simp only [fold]
      cases hs : step value item with
      | mk next failure =>
          cases failure with
          | some failure =>
              simp only [reduceCtorEq, false_iff]
              intro h
              have hfirst := h [] item rest rfl
              simp [fold, hs] at hfirst
          | none =>
              refine ih.trans ⟨fun h before => ?_, fun h before other after he => ?_⟩
              · -- The split is in front of the first item, or behind it and one of `rest`.
                cases before with
                | nil =>
                    rintro other after ⟨rfl, rfl⟩
                    simp [fold, hs]
                | cons first before =>
                    rintro other after ⟨rfl, rfl⟩
                    simpa [fold, hs] using h before other after rfl
              · simpa [fold, hs] using h (item :: before) other after (by rw [he]; rfl)

/-- What every step that is not stopped keeps of a value and of the items so far, a run that is not
stopped keeps. -/
theorem fold_history {P : α → List β → Prop}
    (hstep : ∀ value before item, P value before → (step value item).2 = none →
      P (step value item).1 (before ++ [item]))
    {value : α} {before items : List β} (h : P value before)
    (hcomplete : (fold step value items).2 = none) :
    P (fold step value items).1 (before ++ items) := by
  induction items generalizing value before with
  | nil =>
      rw [List.append_nil]
      exact h
  | cons item rest ih =>
      have hone : (step value item).2 = none := fold_complete_iff.mp hcomplete [] item rest rfl
      rw [fold_cons_of_complete hone] at hcomplete ⊢
      rw [List.append_cons]
      exact ih (hstep value before item h hone) hcomplete

/-- A measure that grows by one with every step that is not stopped counts the items of a run. -/
theorem fold_measure {measure : α → Nat}
    (hstep : ∀ value item, (step value item).2 = none →
      measure (step value item).1 = measure value + 1)
    {value : α} {items : List β} (h : (fold step value items).2 = none) :
    measure (fold step value items).1 = measure value + items.length := by
  have hstart : measure value = measure value + ([] : List β).length := rfl
  refine fold_history
    (P := fun after before => measure after = measure value + before.length)
    (fun after before item hafter hone => ?_) hstart h
  rw [hstep after item hone, hafter, List.length_append, List.length_singleton, Nat.add_assoc]

/-- A change that comes as a result keeps the old value if it fails. -/
theorem of_result_failure {value : α} {result : Except Failure α} {failure : Failure}
    (h : (ofResult value result).2 = some failure) : (ofResult value result).1 = value := by
  cases result with
  | ok changed => cases h
  | error other => rfl

end SparkLog.Changed
