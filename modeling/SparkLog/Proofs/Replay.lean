import SparkLog.Proofs.Ingestion.Replay

/-!
# Analysing a log that was replayed

A log may hold its records twice. A tolerant intake that gets through the records once gets through
them again (`records_again_complete`): it knows more jobs and task attempts the second time, so
fewer records can interrupt it. What is derived from its store afterwards is the same, but for the
lists that only grow (`of_records_again`).
-/

namespace SparkLog

namespace Store

/-- A store recalls what an earlier one knew: its jobs and its task attempts. -/
structure Recalls (store earlier : Store) : Prop where
  jobs : ∀ id, earlier.jobs.has id = true → store.jobs.has id = true
  taskKeys : earlier.taskKeys ⊆ store.taskKeys

variable {store middle earlier : Store}

/-- A store recalls itself. -/
theorem Recalls.refl (store : Store) : store.Recalls store :=
  ⟨fun _ h => h, fun _ h => h⟩

/-- What is recalled stays recalled. -/
theorem Recalls.trans (h : store.Recalls middle) (h' : middle.Recalls earlier) :
    store.Recalls earlier :=
  ⟨fun id hid => h.jobs id (h'.jobs id hid), List.Subset.trans h'.taskKeys h.taskKeys⟩

/-- What was known before an event is recalled after it. -/
theorem recalls_apply (settings : Settings) (store : Store) (event : Event) :
    (store.apply settings event).1.Recalls store := by
  rw [apply_eq_absorb]
  exact
    { jobs := fun id h => Keyed.is_some_fill_by beq_equivalence _ h
      taskKeys := task_keys_subset_absorb }

/-- What overflows where more is known overflows where less is. -/
theorem Recalls.overflows (h : store.Recalls earlier) {content : EventContent}
    (hoverflows : store.Overflows content) : earlier.Overflows content := by
  cases content with
  | jobStart id time stages infos properties =>
      obtain ⟨hnew, hinfinite⟩ := hoverflows
      refine ⟨?_, hinfinite⟩
      rw [Bool.eq_false_iff] at hnew ⊢
      exact fun hknown => hnew (h.jobs id hknown)
  | taskEnd stage stageAttempt type reason info metrics executorMetrics =>
      obtain ⟨id, key, hid, hkey, hnew, hoverflow⟩ := hoverflows
      refine ⟨id, key, hid, hkey, ?_, hoverflow⟩
      rw [List.any_eq_false] at hnew ⊢
      exact fun known hknown => hnew known (h.taskKeys hknown)
  | stageCompleted info => exact hoverflows
  | _ => cases hoverflows

/-- What interrupts where more is known interrupts where less is. -/
theorem Recalls.halts (h : store.Recalls earlier) {record : Payload}
    (hhalts : store.Halts record) : earlier.Halts record := by
  obtain ⟨fields, name, hnamed, hname | ⟨text, event, hname, hevent, hoverflows⟩⟩ := hhalts
  · exact ⟨fields, name, hnamed, .inl hname⟩
  · exact ⟨fields, name, hnamed, .inr ⟨text, event, hname, hevent, h.overflows hoverflows⟩⟩

end Store

namespace Intake

variable {settings : Settings}

/-- What was known before records is recalled after them. -/
theorem recalls_records (intake : Intake) (items : List Payload) :
    (Intake.records settings intake items).1.store.Recalls intake.store :=
  records_store_invariant (P := fun store => store.Recalls intake.store)
    (fun store event h => (store.recalls_apply settings event).trans h) (.refl _) items

/-- A tolerant intake that gets through its records gets through them again. -/
theorem records_again_complete (hlenient : settings.strict = false) {items : List Payload}
    (hcomplete : (Intake.records settings {} items).2 = none) :
    (Intake.records settings (Intake.records settings {} items).1 items).2 = none := by
  refine Changed.fold_complete_iff.mpr fun before record after hitems => ?_
  have hfirst := Changed.fold_complete_iff.mp hcomplete before record after hitems
  rw [record_complete_iff hlenient] at hfirst ⊢
  -- Where the record comes again, all is known that was known where it came first.
  refine fun hhalts => hfirst (Store.Recalls.halts ?_ hhalts)
  refine (recalls_records _ before).trans ?_
  rw [hitems, records_append] at hcomplete ⊢
  rw [Changed.and_then_eq (Changed.and_then_complete_iff.mp hcomplete).1]
  exact recalls_records _ (record :: after)

/-- A tolerant intake that gets through its records gets through them twice, and takes them in one
after the other. -/
theorem records_twice (hlenient : settings.strict = false) {items : List Payload}
    (hcomplete : (Intake.records settings {} items).2 = none) :
    (Intake.records settings {} (items ++ items)).2 = none ∧
      (Intake.records settings {} (items ++ items)).1.store =
        ((({} : Store).absorbAll settings (items.filterMap readEvent?)).absorbAll settings
          (items.filterMap readEvent?)) := by
  have hagain := records_again_complete hlenient hcomplete
  have htwice : Intake.records settings {} (items ++ items) =
      Intake.records settings (Intake.records settings {} items).1 items :=
    records_append.trans (Changed.and_then_eq hcomplete)
  rw [htwice]
  refine ⟨hagain, ?_⟩
  rw [records_store_eq hlenient hagain, records_store_eq hlenient hcomplete]

end Intake

namespace Analysis

variable {settings : Settings} {index : Int} {records : List Payload}

/-- A log whose records come twice, in a run in which no plan is replaced before its query starts,
is analysed with the result of the log itself: the store is the same but for the lists that only
grow, and so are the largest values of accumulators. -/
theorem of_records_again {analysis : Analysis} (hlenient : settings.strict = false)
    (hanalysis : ofRecords settings index records = .ok analysis)
    (horder : UpdatesFollowStarts (records.filterMap readEvent?)) :
    ∃ again repeats, ofRecords settings index (records ++ records) = .ok again ∧
      again.store = analysis.store.append repeats ∧ repeats.Within analysis.store ∧
      again.store.largestValues = analysis.store.largestValues := by
  obtain ⟨hcomplete, derived, hderive, rfl⟩ := of_records_eq_ok_iff.mp hanalysis
  obtain ⟨hagain, hstore⟩ := Intake.records_twice hlenient hcomplete
  have hrepeats := @Store.repeated_within settings (records.filterMap readEvent?)
  rw [Store.absorb_all_again horder] at hstore
  rw [Intake.records_store_eq hlenient hcomplete] at hderive
  have hwithin := hrepeats.derived hderive
  refine ⟨_, _, of_records_eq_ok_iff.mpr ⟨hagain, _, ?_, rfl⟩, rfl, hwithin,
    Store.largest_values_append hwithin⟩
  rw [hstore]
  exact Store.derive_append hderive hrepeats.adaptiveMetrics

/-- A query that is started, planned anew while it runs, and updated by the driver. -/
def replannedQuery : List Payload :=
  [ .object
      [ ("Event", .text "org.apache.spark.sql.execution.ui.SparkListenerSQLExecutionStart"),
        ("executionId", .int 1), ("sparkPlanInfo", .object [("nodeName", .text "Project")]),
        ("time", .int 10) ],
    .object
      [ ("Event",
          .text "org.apache.spark.sql.execution.ui.SparkListenerSQLAdaptiveExecutionUpdate"),
        ("executionId", .int 1), ("sparkPlanInfo", .object [("nodeName", .text "Filter")]) ],
    .object
      [ ("Event", .text "org.apache.spark.sql.execution.ui.SparkListenerDriverAccumUpdates"),
        ("executionId", .int 1), ("accumUpdates", .list [.list [.int 4, .int 9]]) ] ]

/-- The query that is planned anew keeps its new plan when its records come again. -/
theorem of_replanned_query_again : ∃ analysis again repeats,
    ofRecords {} 0 replannedQuery = .ok analysis ∧
      UpdatesFollowStarts (replannedQuery.filterMap readEvent?) ∧
      ofRecords {} 0 (replannedQuery ++ replannedQuery) = .ok again ∧
      again.store = analysis.store.append repeats ∧
      again.store.largestValues = analysis.store.largestValues := by
  obtain ⟨start, update, driver, hevents, hstart, ⟨planText, plan, hupdate⟩, hdriver⟩ :
      ∃ start update driver, replannedQuery.filterMap readEvent? = [start, update, driver] ∧
        start.content.Starts 1 ∧
        (∃ planText plan, update.content = .planUpdate 1 planText plan) ∧
        driver.content = .driverUpdates 1 [[4, 9]] :=
    ⟨_, _, _, rfl, ⟨rfl, rfl⟩, ⟨_, _, rfl⟩, rfl⟩
  have horder : UpdatesFollowStarts (replannedQuery.filterMap readEvent?) := by
    rw [hevents]
    rintro (_ | ⟨first, before⟩) event after hsplit id ⟨text, other, hcontent⟩ -
    · obtain ⟨rfl, -⟩ := List.cons.inj hsplit
      simp [EventContent.Starts, hcontent, EventContent.kind] at hstart
    · obtain ⟨rfl, hrest⟩ := List.cons.inj hsplit
      have hmem : event ∈ [update, driver] := hrest ▸ by simp
      obtain rfl | rfl : event = update ∨ event = driver := by simpa using hmem
      · obtain ⟨rfl, -⟩ := EventContent.planUpdate.inj (hcontent.symm.trans hupdate)
        exact ⟨start, by simp, hstart⟩
      · cases hcontent.symm.trans hdriver
  obtain ⟨analysis, hanalysis⟩ : ∃ analysis, ofRecords {} 0 replannedQuery = .ok analysis :=
    ⟨_, rfl⟩
  obtain ⟨again, repeats, hagain, hstore, -, hlargest⟩ := of_records_again rfl hanalysis horder
  exact ⟨analysis, again, repeats, hanalysis, horder, hagain, hstore, hlargest⟩

end Analysis

end SparkLog
