import Mathlib.Algebra.Group.Int.Defs
import SparkLog.Proofs.Replay
import SparkLog.Proofs.Rearrangement.Derivation
import SparkLog.Proofs.Rearrangement.Ingestion
import SparkLog.Proofs.Rearrangement.Listing

/-!
# Analysing records in another order

The records of a log may come in another order: ends before starts, tasks before their stage. If no
two events of a kind have the same identifier, every order that a tolerant intake gets through is
analysed with the same result, but for the order of records in the store (`of_records_perm`). It
gets through every order if no record interrupts an empty store. A record that does can only be
passed by behind another one that makes it known (`of_tasks_interrupted`).
-/

namespace SparkLog

variable {settings : Settings} {index : Int} {records : List Payload}

/-- Every store recalls the empty one. -/
theorem Store.recalls_empty (store : Store) : store.Recalls {} :=
  ⟨nofun, List.nil_subset _⟩

/-- A tolerant intake gets through records in every order if and only if none of them interrupts an
empty store. -/
theorem Intake.records_perm_complete_iff (hlenient : settings.strict = false) :
    (∀ others : List Payload, others.Perm records → (Intake.records settings {} others).2 = none) ↔
      ∀ record ∈ records, ¬ ({} : Store).Halts record := by
  constructor
  · intro hcomplete record hmem
    -- In front of all others, a record meets the empty store.
    obtain ⟨before, after, rfl⟩ := List.append_of_mem hmem
    have hfirst := hcomplete (record :: (before ++ after)) List.perm_middle.symm
    have hrecord := Changed.fold_complete_iff.mp hfirst [] record (before ++ after) rfl
    exact (record_complete_iff hlenient).mp hrecord
  · intro hrecords others hperm
    refine Changed.fold_complete_iff.mpr fun before record after hothers => ?_
    refine (record_complete_iff hlenient).mpr fun hhalts => ?_
    have hmem : record ∈ records := hperm.mem_iff.mp (by simp [hothers])
    exact hrecords record hmem ((Store.recalls_empty _).halts hhalts)

/-- Only the events of one kind replace plans. -/
theorem no_plan_replaced
    (hkinds : ∀ event ∈ records.filterMap readEvent?, event.content.kind ≠ .planUpdate) :
    ∀ event ∈ records.filterMap readEvent?, ∀ id, ¬ event.content.Replans id := by
  rintro event hmem id ⟨planText, plan, hcontent⟩
  exact hkinds event hmem (by rw [hcontent]; rfl)

namespace Analysis

/-- The records of independent events, none of which replaces a plan, are analysed with the same
result in every order that a tolerant intake gets through: the store holds the same in another
order, and what is answered in an order of its own is answered the same. The intake gets through
every order if and only if no record interrupts an empty store. -/
theorem of_records_perm {analysis : Analysis} (hlenient : settings.strict = false)
    (hanalysis : ofRecords settings index records = .ok analysis)
    (hindependent : (records.filterMap readEvent?).Pairwise Event.Independent)
    (hplans : ∀ event ∈ records.filterMap readEvent?, ∀ id, ¬ event.content.Replans id) :
    ((∀ others, others.Perm records → (Intake.records settings {} others).2 = none) ↔
        ∀ record ∈ records, ¬ ({} : Store).Halts record) ∧
      ∀ others, others.Perm records → (Intake.records settings {} others).2 = none →
        ∃ again, ofRecords settings index others = .ok again ∧
          analysis.store.Rearranges again.store ∧
          ∀ inquiry ∈ Inquiry.ordered, again.ask inquiry = analysis.ask inquiry := by
  refine ⟨Intake.records_perm_complete_iff hlenient, fun others hperm hothers => ?_⟩
  obtain ⟨hcomplete, derived, hderive, rfl⟩ := of_records_eq_ok_iff.mp hanalysis
  rw [Intake.records_store_eq hlenient hcomplete] at hderive
  obtain ⟨hstores, hids, hgraphs⟩ := @Store.absorb_all_rearranges settings _ _
    (hperm.symm.filterMap readEvent?) hindependent hplans
  obtain ⟨derived', hderive', hderived, hids'⟩ := hstores.derive hids hgraphs hderive
  rw [← Intake.records_store_eq hlenient hothers] at hderive'
  refine ⟨_, of_records_eq_ok_iff.mpr ⟨hothers, derived', hderive', rfl⟩, hderived, ?_⟩
  intro inquiry hordered
  exact (hderived.ask hids' settings index _ _ hordered).symm

/-- A query with a failed job and its tasks. -/
def queryRecords : List Payload :=
  [ .object [("Event", .text "SparkListenerApplicationStart"), ("App Name", .text "a"),
      ("App ID", .text "app-1"), ("Timestamp", .int 1)],
    .object
      [ ("Event", .text "org.apache.spark.sql.execution.ui.SparkListenerSQLExecutionStart"),
        ("executionId", .int 1), ("sparkPlanInfo", .object [("nodeName", .text "Project")]),
        ("time", .int 10) ],
    .object
      [ ("Event", .text "SparkListenerJobStart"), ("Job ID", .int 2), ("Submission Time", .int 11),
        ("Stage IDs", .list [.int 3]),
        ("Properties", .object [("spark.sql.execution.id", .text "1")]) ],
    .object
      [ ("Event", .text "SparkListenerStageSubmitted"),
        ("Stage Info", .object [("Stage ID", .int 3), ("Stage Attempt ID", .int 0)]) ],
    endOfTask 7 900, endOfTask 8 100,
    .object
      [ ("Event", .text "SparkListenerJobEnd"), ("Job ID", .int 2), ("Completion Time", .int 19),
        ("Job Result", .object [("Result", .text "JobFailed")]) ],
    .object
      [ ("Event", .text "org.apache.spark.sql.execution.ui.SparkListenerSQLExecutionEnd"),
        ("executionId", .int 1), ("time", .int 20) ] ]
where
  /-- The end of a task that read some bytes. -/
  endOfTask (id bytes : Int) : Payload :=
    .object
      [ ("Event", .text "SparkListenerTaskEnd"), ("Stage ID", .int 3), ("Stage Attempt ID", .int 0),
        ("Task End Reason", .object [("Reason", .text "Success")]),
        ("Task Info", .object [("Task ID", .int id), ("Launch Time", .int 12),
          ("Finish Time", .int 15)]),
        ("Task Metrics", .object
          [("Shuffle Read Metrics", .object [("Remote Bytes Read", .int bytes)])]) ]

/-- The records of the query may come in any order. -/
theorem of_query_records_perm : ∃ analysis,
    ofRecords {} 0 queryRecords = .ok analysis ∧
      (queryRecords.filterMap readEvent?).Pairwise Event.Independent ∧
      (∀ event ∈ queryRecords.filterMap readEvent?, ∀ id, ¬ event.content.Replans id) ∧
      ∀ others, others.Perm queryRecords → ∃ again, ofRecords {} 0 others = .ok again ∧
        analysis.store.Rearranges again.store ∧
        ∀ inquiry ∈ Inquiry.ordered, again.ask inquiry = analysis.ask inquiry := by
  obtain ⟨hindependent, hkinds, hanalysed, hrecords⟩ :
      (queryRecords.filterMap readEvent?).Pairwise Event.Independent ∧
        (∀ event ∈ queryRecords.filterMap readEvent?, event.content.kind ≠ .planUpdate) ∧
        (ofRecords {} 0 queryRecords).toOption.isSome = true ∧
        ∀ record ∈ queryRecords, (({} : Intake).record {} record).2 = none := by
    decide +kernel
  have hplans := no_plan_replaced hkinds
  obtain ⟨analysis, hsome⟩ := Option.isSome_iff_exists.mp hanalysed
  have hanalysis := to_option_eq_some_iff.mp hsome
  obtain ⟨hcomplete, hothers⟩ := of_records_perm rfl hanalysis hindependent hplans
  have hall := hcomplete.mpr fun record hmem =>
    (Intake.record_complete_iff rfl).mp (hrecords record hmem)
  exact ⟨analysis, hanalysis, hindependent, hplans, fun others hperm =>
    hothers others hperm (hall others hperm)⟩

/-- A task whose identifier is the least integer past 64 bits. -/
def farTask : Payload :=
  .object
    [ ("Event", .text "SparkListenerTaskEnd"), ("Stage ID", .int 1), ("Stage Attempt ID", .int 0),
      ("Task End Reason", .object []),
      ("Task Info", .object [("Task ID", .int (2 ^ 63))]) ]

/-- A task whose identifier is the same number, which is no identifier as it is written, and that
took a time past the floating-point range. -/
def endlessTask : Payload :=
  .object
    [ ("Event", .text "SparkListenerTaskEnd"), ("Stage ID", .int 1), ("Stage Attempt ID", .int 0),
      ("Task End Reason", .object []),
      ("Task Info", .object
        [ ("Task ID", .float (Binary64.ofRatio (2 ^ 63) 1)),
          ("Launch Time", .float (Binary64.ofRatio 1 2)), ("Finish Time", .int (10 ^ 400)) ]) ]

/-- The two tasks are independent. Behind the other one, the endless task is passed by as known, and
all is answered; in front of it, it interrupts the intake. -/
theorem of_tasks_interrupted :
    ([farTask, endlessTask].filterMap readEvent?).Pairwise Event.Independent ∧
      (∀ event ∈ [farTask, endlessTask].filterMap readEvent?, ∀ id, ¬ event.content.Replans id) ∧
      (∃ analysis, ofRecords {} 0 [farTask, endlessTask] = .ok analysis ∧
        ∀ inquiry ∈ Inquiry.ordered, ∃ reply, analysis.ask inquiry = .ok reply) ∧
      (Intake.records {} {} [endlessTask, farTask]).2 = some .integerTooLarge := by
  have hanswers : (ofRecords {} 0 [farTask, endlessTask]).toOption.any (fun analysis =>
      Inquiry.ordered.all fun inquiry => (analysis.ask inquiry).toOption.isSome) = true := by
    decide +kernel
  obtain ⟨analysis, hsome, hall⟩ := (Option.any_eq_true _ _).mp hanswers
  refine ⟨by decide +kernel, no_plan_replaced (by decide +kernel),
    ⟨analysis, to_option_eq_some_iff.mp hsome, fun inquiry hmem => ?_⟩, by decide +kernel⟩
  obtain ⟨reply, hreply⟩ := Option.isSome_iff_exists.mp (List.all_eq_true.mp hall inquiry hmem)
  exact ⟨reply, to_option_eq_some_iff.mp hreply⟩

end Analysis

end SparkLog
