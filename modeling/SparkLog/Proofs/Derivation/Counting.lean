import SparkLog.Proofs.Derivation.Sessions
import SparkLog.Proofs.Ingestion.History
import SparkLog.Proofs.Rearrangement.Derivation

/-!
# What queries count, by the history

What a query counts towards qualification is told by the history of a run: by its first start and
its first end, and by the nodes of its latest plan (`History.countedDuration`). So is whether the
jobs of a query ended with success (`History.JobsSucceeded`). What correlation and plan analysis
derive from a store agrees with both (`Recorded.counts`, `Recorded.jobs_succeeded_iff`).
-/

namespace SparkLog

/-! ## Texts -/

namespace Text

/-- A word occurs in a text exactly if it is a part of it. -/
theorem occurs_iff {word text : List Char} : occurs word text = true ↔ word <:+: text := by
  induction text with
  | nil => rw [occurs, List.isEmpty_iff, List.infix_nil]
  | cons c rest ih =>
      rw [occurs, Bool.or_eq_true, List.isPrefixOf_iff_prefix, ih, List.infix_cons_iff]

/-- A text contains a word exactly if the word is a part of it. -/
theorem contains_iff {text word : String} :
    contains text word = true ↔ word.toList <:+: text.toList :=
  occurs_iff

/-- A text ends in a word exactly if the word is its last part. -/
theorem ends_in_iff {text word : String} :
    endsIn text word = true ↔ word.toList <:+ text.toList :=
  List.isSuffixOf_iff_suffix

end Text

/-! ## The history -/

/-- A plan has a dataset operation: a node of its graph shows a lambda or an apply method. -/
def PlanTree.HasDatasetOperation (plan : PlanTree) : Prop :=
  ∃ node ∈ (PlanGraph.ofPlan plan).allNodes,
    "$Lambda$".toList <:+: node.description.toList ∨ ".apply".toList <:+ node.description.toList

instance (plan : PlanTree) : Decidable plan.HasDatasetOperation :=
  inferInstanceAs (Decidable (∃ node ∈ (PlanGraph.ofPlan plan).allNodes, _))

namespace History

variable (history : List Event)

/-- The job that is started first under an identifier. -/
def job? (id : Int) : Option Job :=
  (firstTold (· == ·) (history.filterMap (·.content.job?)) id).bind Except.toOption

/-- The end of a job that is observed first. -/
def jobEnd? (id : Int) : Option JobEnd :=
  (firstTold (· == ·) (history.filterMap (·.content.jobEnd?)) id).bind Except.toOption

/-- The query that is started first under an identifier. -/
def query? (id : Int) : Option Query :=
  (firstTold (· == ·) (history.filterMap (·.content.query?)) id).bind Except.toOption

/-- The end of a query that is observed first. -/
def queryEnd? (id : Int) : Option Int :=
  (firstTold (· == ·) (history.filterMap (·.content.queryEnd?)) id).bind Except.toOption

/-- The latest plan of a query: the one of its first start, or of the last update. -/
def plan? (id : Int) : Option PlanTree :=
  (lastTold (· == ·) ((Store.firstStarts history).filterMap (·.content.plan?)) id).map Prod.fst

/-- Every job that a query started has an end with success. -/
def JobsSucceeded (query : Int) : Prop :=
  ∀ id job, job? history id = some job → job.query = some query →
    ∃ jobEnd, jobEnd? history id = some jobEnd ∧ jobEnd.result = some Job.success

/-- What a query counts: its duration, or nothing if it did not end, ended before its start, or has
a dataset operation. -/
def countedDuration (id : Int) : Int :=
  match query? history id, queryEnd? history id with
  | some query, some time =>
    if ∃ plan ∈ plan? history id, plan.HasDatasetOperation then 0 else max (time - query.start) 0
  | _, _ => 0

variable {history}

/-- What a history tells first is told by one of its events. -/
theorem told_of_first {α : Type} {tell : EventContent → Option (Int × Except Failure α)} {id : Int}
    {value : α} (h : (firstTold (· == ·) (history.filterMap (tell ·.content)) id).bind
      Except.toOption = some value) :
    ∃ event ∈ history, tell event.content = some (id, .ok value) := by
  obtain ⟨told, htold, hvalue⟩ := Option.bind_eq_some_iff.mp h
  obtain ⟨entry, hentry, hkey, rfl⟩ := @Keyed.mem_of_find_by _ _ (· == ·) ⟨_⟩ id told htold
  obtain ⟨event, hevent, hcontent⟩ := List.mem_filterMap.mp hentry
  refine ⟨event, hevent, hcontent.trans (congrArg some (Prod.ext (eq_of_beq hkey) ?_))⟩
  exact to_option_eq_some_iff.mp hvalue

/-- A job has no result when it starts. -/
theorem job_fresh {id : Int} {job : Job} (h : job? history id = some job) : job.result = none := by
  obtain ⟨event, -, htold⟩ := told_of_first h
  cases hcontent : event.content with
  | jobStart =>
      rw [hcontent] at htold
      obtain ⟨query, -, rfl⟩ := map_eq_ok_iff.mp (Prod.mk.inj (Option.some.inj htold)).2
      rfl
  | _ =>
      rw [hcontent] at htold
      cases htold

/-- A query has its identifier and no duration when it starts. -/
theorem query_fresh {id : Int} {query : Query} (h : query? history id = some query) :
    query.id = id ∧ query.duration = none := by
  obtain ⟨event, -, htold⟩ := told_of_first h
  cases hcontent : event.content with
  | queryStart =>
      rw [hcontent] at htold
      obtain ⟨rfl, hquery⟩ := Prod.mk.inj (Option.some.inj htold)
      obtain rfl := Except.ok.inj hquery
      exact ⟨rfl, rfl⟩
  | _ =>
      rw [hcontent] at htold
      cases htold

end History

/-- What is found in a collection is what is told about the key. -/
theorem Keyed.Holds.find {κ α : Type} {same : κ → κ → Bool} {table : Keyed κ α}
    {told : κ → Option (Except Failure α)} (h : table.Holds same told) (key : κ) :
    table.findBy? same key = (told key).bind Except.toOption := by
  rw [← h.finds key]
  cases table.findBy? same key <;> rfl

/-! ## Findings -/

namespace Findings

/-- Labels say that a query has a dataset operation exactly if one of them says so. -/
theorem fold_note_about (labels : List (PlanLabel × String)) (said : Bool × Option (List String)) :
    (labels.foldl noteAbout said).1 = (said.1 || labels.any (·.1 = .datasetOperation)) := by
  induction labels generalizing said with
  | nil => simp
  | cons label rest ih =>
      rw [List.foldl_cons, ih, List.any_cons, ← Bool.or_assoc]
      congr 1
      obtain ⟨label, reason⟩ := label
      cases label <;> simp [noteAbout]

/-- Plans say that a query has a dataset operation exactly if a label of a plan of it says so. -/
theorem fold_plans_dataset (plans : List (Int × PlanTree)) (query : Int)
    (said : Bool × Option (List String)) :
    (plans.foldl (fun said entry =>
        if entry.1 = query then entry.2.labels.foldl noteAbout said else said) said).1 =
      (said.1 || plans.any fun entry =>
        entry.1 = query && entry.2.labels.any (·.1 = .datasetOperation)) := by
  induction plans generalizing said with
  | nil => simp
  | cons entry rest ih =>
      rw [List.foldl_cons, ih, List.any_cons, ← Bool.or_assoc]
      congr 1
      by_cases hquery : entry.1 = query
      · simp [hquery, fold_note_about]
      · simp [hquery]

/-- Findings say that a query has a dataset operation exactly if a label of a plan of it does. -/
theorem about_findings_dataset (plans : List (Int × PlanTree)) (query : Int) :
    ((Store.findings plans).about query).1 = plans.any fun entry =>
      entry.1 = query && entry.2.labels.any (·.1 = .datasetOperation) := by
  rw [about_findings, fold_plans_dataset, Bool.false_or]

end Findings

/-- The labels of a plan name a dataset operation exactly if the plan has one. -/
theorem PlanTree.labels_dataset_iff {plan : PlanTree} :
    (plan.labels.any (·.1 = .datasetOperation)) = true ↔ plan.HasDatasetOperation := by
  have hlabel (description : String) :
      (PlanLabel.ofDescription description).any (·.1 = .datasetOperation) =
        PlanLabel.isDatasetOperation description := by
    unfold PlanLabel.ofDescription
    cases PlanLabel.isDatasetOperation description <;>
      cases PlanLabel.potentialIssue? description <;> rfl
  simp only [labels, List.any_flatMap, hlabel, List.any_eq_true, HasDatasetOperation,
    PlanLabel.isDatasetOperation, Bool.or_eq_true, Text.contains_iff, Text.ends_in_iff]

namespace Store

variable {store derived : Store} {history : List Event}

/-- The findings say that a query has a dataset operation exactly if its plan has one. -/
theorem findings_dataset_iff {plans : Keyed Int PlanTree} (hapart : plans.Apart (· == ·))
    {id : Int} : (findings plans.entries).datasetQueries.contains id = true ↔
      ∃ plan ∈ plans.find? id, plan.HasDatasetOperation := by
  have habout : (findings plans.entries).datasetQueries.contains id = plans.entries.any _ :=
    Findings.about_findings_dataset plans.entries id
  rw [habout, List.any_eq_true]
  simp only [Bool.and_eq_true, decide_eq_true_eq, PlanTree.labels_dataset_iff]
  constructor
  · rintro ⟨entry, hmem, rfl, hdataset⟩
    exact ⟨entry.2, hapart.find_by_of_mem beq_equivalence hmem (beq_self_eq_true _), hdataset⟩
  · rintro ⟨plan, hplan, hdataset⟩
    obtain ⟨entry, hmem, hkey, rfl⟩ := Keyed.mem_of_find_by hplan
    exact ⟨entry, hmem, eq_of_beq hkey, hdataset⟩

/-! ## Derived records -/

/-- What is derived about jobs, queries and the application. -/
theorem derived_records (h : store.derive = .ok derived) :
    derived.jobs = store.closed.jobs ∧ derived.application = store.closed.application ∧
      derived.queries = store.queries.mapValues fun id query =>
        withFindings (findings store.plans.entries) id (store.closeQuery id query).1 := by
  obtain ⟨-, rfl⟩ := derive_eq_ok_iff.mp h
  rw [analyze_eq]
  refine ⟨rfl, rfl, ?_⟩
  simp [finalize, closed, mark, Keyed.mapValues]

/-- A query that is closed lasts from its start to its end, or as long as before. -/
theorem close_query_duration (store : Store) (id : Int) (query : Query) :
    (store.closeQuery id query).1.duration =
      match store.queryEnds.find? id with
      | some time => some (time - query.start)
      | none => query.duration := by
  unfold closeQuery
  cases store.queryEnds.find? id with
  | none => rfl
  | some time => exact write_duration_same Query.duration fun _ _ => rfl

/-- Closing a query keeps its identifier. -/
theorem close_query_id (store : Store) (id : Int) (query : Query) :
    (store.closeQuery id query).1.id = query.id := by
  unfold closeQuery
  split
  · exact write_duration_same Query.id fun _ _ => rfl
  · rfl

/-- A job that is closed has the result of its end, or the one from before. -/
theorem close_job_result (store : Store) (id : Int) (job : Job) :
    (store.closeJob id job).1.result =
      match store.jobEnds.find? id with
      | some jobEnd => jobEnd.result
      | none => job.result := by
  unfold closeJob
  cases store.jobEnds.find? id with
  | none => rfl
  | some jobEnd => exact write_duration_same Job.result fun _ _ => rfl

/-- Closing a job keeps the query that started it. -/
theorem close_job_query (store : Store) (id : Int) (job : Job) :
    (store.closeJob id job).1.query = job.query := by
  unfold closeJob
  split
  · exact write_duration_same Job.query fun _ _ => rfl
  · rfl

namespace Recorded

variable (h : store.Recorded history)
include h

/-- The findings about a query are told by its latest plan in the history. -/
theorem findings_iff {id : Int} :
    (findings store.plans.entries).datasetQueries.contains id = true ↔
      ∃ plan ∈ History.plan? history id, plan.HasDatasetOperation := by
  have hplan : store.plans.find? id = History.plan? history id := by
    rw [Keyed.find?, h.plans.find, History.plan?]
    cases lastTold (· == ·) ((firstStarts history).filterMap (·.content.plan?)) id <;> rfl
  rw [findings_dataset_iff h.plans.apart, hplan]

/-- What is derived about a query is what the history says that it counts. -/
theorem counts {id : Int} {query : Query} (hquery : store.queries.find? id = some query) :
    let derived := withFindings (findings store.plans.entries) id (store.closeQuery id query).1
    derived.id = id ∧ derived.qualifyingDuration = History.countedDuration history id := by
  have htold : History.query? history id = some query := (h.queries.find id).symm.trans hquery
  obtain ⟨hid, hduration⟩ := History.query_fresh htold
  refine ⟨(close_query_id store id query).trans hid, ?_⟩
  have hend : store.queryEnds.find? id = History.queryEnd? history id := h.queryEnds.find id
  simp only [withFindings, close_query_duration, hend, hduration, History.countedDuration, htold]
  cases History.queryEnd? history id with
  | none => cases (findings store.plans.entries).datasetQueries.contains id <;> rfl
  | some time =>
      by_cases hdataset : ∃ plan ∈ History.plan? history id, plan.HasDatasetOperation
      · rw [h.findings_iff.mpr hdataset]
        exact (if_pos hdataset).symm
      · rw [Bool.eq_false_iff.mpr (mt h.findings_iff.mp hdataset)]
        exact (if_neg hdataset).symm

/-- The jobs of a query ended with success exactly if no other result is derived about one. -/
theorem jobs_succeeded_iff {id : Int} : History.JobsSucceeded history id ↔
    ∀ job ∈ store.closed.jobs.values, job.query = some id → job.result = some Job.success := by
  have hjob (key : Int) : store.jobs.find? key = History.job? history key := h.jobs.find key
  have hend (key : Int) : store.jobEnds.find? key = History.jobEnd? history key :=
    h.jobEnds.find key
  constructor
  · intro hsucceeded job hmem hquery
    obtain ⟨entry, hentry, rfl⟩ := List.mem_map.mp hmem
    obtain ⟨before, hbefore, rfl⟩ := List.mem_map.mp hentry
    dsimp only at hquery ⊢
    have hfound : store.jobs.find? before.1 = some before.2 :=
      h.jobs.apart.find_by_of_mem beq_equivalence hbefore (beq_self_eq_true _)
    rw [close_job_query] at hquery
    obtain ⟨jobEnd, hjobEnd, hresult⟩ :=
      hsucceeded before.1 before.2 ((hjob _).symm.trans hfound) hquery
    rw [close_job_result, hend, hjobEnd]
    exact hresult
  · intro hderived key job htold hquery
    obtain ⟨entry, hentry, hkey, rfl⟩ := Keyed.mem_of_find_by ((hjob key).trans htold)
    obtain rfl := eq_of_beq hkey
    have hresult := hderived (store.closeJob entry.1 entry.2).1
      (List.mem_map_of_mem (List.mem_map_of_mem hentry)) (by rw [close_job_query, hquery])
    rw [close_job_result, hend] at hresult
    cases hjobEnd : History.jobEnd? history entry.1 with
    | none =>
        rw [hjobEnd, History.job_fresh htold] at hresult
        cases hresult
    | some jobEnd =>
        rw [hjobEnd] at hresult
        exact ⟨jobEnd, rfl, hresult⟩

end Recorded

end Store

end SparkLog
