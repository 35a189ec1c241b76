import SparkLog.Proofs.Ingestion.Families
import SparkLog.Proofs.Rearrangement.Store

/-!
# Independent events in any order

Events are independent if no two of a kind have the same identifier. A run over independent events,
none of which replaces a plan, gathers what each of them adds (`absorb_all_eq_gather`): nothing is
known before it comes, so no policy for known keys applies. What is gathered does not depend on the
order of the events, but for the order of the records (`gather_rearranges`).
-/

namespace SparkLog

/-- Events are independent of each other unless they are of one kind and have one identifier. -/
def Event.Independent (event other : Event) : Prop :=
  event.content.kind = other.content.kind →
    ∀ id, event.content.identifier? = some id → other.content.identifier? ≠ some id

/-- Independence is mutual. -/
theorem Event.Independent.symm {event other : Event} (h : event.Independent other) :
    other.Independent event :=
  fun hkind id hid hid' => h hkind.symm id hid' hid

/-- Events of one kind are independent if one has no identifier or the other has another one. -/
theorem Event.independent_iff {event other : Event} : event.Independent other ↔
    event.content.kind ≠ other.content.kind ∨ event.content.identifier? = none ∨
      event.content.identifier? ≠ other.content.identifier? := by
  unfold Event.Independent
  rw [imp_iff_not_or]
  cases event.content.identifier? with
  | none => simp
  | some id => simp [eq_comm]

instance (event other : Event) : Decidable (event.Independent other) :=
  decidable_of_iff' _ Event.independent_iff

namespace Store

variable {settings : Settings} {event : Event} {events others : List Event}

/-! ## Families of identified records -/

section Family

variable {κ α : Type} {family : Store → Keyed κ α} {same : κ → κ → Bool} {kind : EventKind}
  {identify : κ × α → Identifier}

/-- A family of records of which every event adds one at most, under its own identifier. Records
under the same key have the same identifier. -/
structure Family (settings : Settings) (events : List Event) (family : Store → Keyed κ α)
    (same : κ → κ → Bool) (kind : EventKind) (identify : κ × α → Identifier) : Prop where
  tells : ∀ event ∈ events, (family (alone settings event)).AtMostOne fun entry =>
    event.content.kind = kind ∧ event.content.identifier? = some (identify entry)
  unique : ∀ event ∈ events, ∀ entry ∈ (family (alone settings event)).entries,
    ∀ other ∈ events, ∀ entry' ∈ (family (alone settings other)).entries,
      same entry.1 entry'.1 = true → identify entry = identify entry'

variable (h : Family settings events family same kind identify)
include h

/-- Independent events add records with different identifiers. -/
theorem Family.pairwise (hindependent : events.Pairwise Event.Independent) :
    (events.flatMap fun event => (family (alone settings event)).entries).Pairwise
      fun entry entry' => identify entry ≠ identify entry' := by
  refine List.pairwise_flatMap.mpr ⟨fun event hmem => ?_, ?_⟩
  · obtain hnone | ⟨entry, hentry, -⟩ := h.tells event hmem
    · rw [hnone]
      exact .nil
    · rw [hentry]
      exact List.pairwise_singleton _ _
  · refine hindependent.imp_of_mem ?_
    intro event other hevent hother hne entry hentry entry' hentry'
    obtain ⟨hkind, hid⟩ := (h.tells event hevent).of_mem hentry
    obtain ⟨hkind', hid'⟩ := (h.tells other hother).of_mem hentry'
    intro he
    exact hne (hkind.trans hkind'.symm) _ hid (he ▸ hid')

/-- Independent events add records under keys that are apart. -/
theorem Family.apart (hindependent : events.Pairwise Event.Independent) :
    (⟨events.flatMap fun event => (family (alone settings event)).entries⟩ : Keyed κ α).Apart
      same := by
  refine List.pairwise_map.mpr ((h.pairwise hindependent).imp_of_mem ?_)
  intro entry entry' hmem hmem' hne
  obtain ⟨event, hevent, hentry⟩ := List.mem_flatMap.mp hmem
  obtain ⟨other, hother, hentry'⟩ := List.mem_flatMap.mp hmem'
  rw [Bool.eq_false_iff]
  exact fun hsame => hne (h.unique event hevent entry hentry other hother entry' hentry' hsame)

/-- Independent events fill a family with all that they add. -/
theorem Family.filled (hempty : family {} = .empty)
    (hfamily : ∀ store event, family (store.absorb settings event) =
      (family store).fillBy same (family (alone settings event)).entries)
    (hindependent : events.Pairwise Event.Independent) :
    family (({} : Store).absorbAll settings events) =
      ⟨events.flatMap fun event => (family (alone settings event)).entries⟩ := by
  rw [absorb_all_fill family hfamily, hempty]
  exact Keyed.fill_by_apart (h.apart hindependent)

/-- Independent events put all that they add into a family that they override. -/
theorem Family.overridden (hempty : family {} = .empty)
    (hfamily : ∀ store event, family (store.absorb settings event) =
      (family store).overrideBy same (family (alone settings event)).entries)
    (hindependent : events.Pairwise Event.Independent) :
    family (({} : Store).absorbAll settings events) =
      ⟨events.flatMap fun event => (family (alone settings event)).entries⟩ := by
  rw [absorb_all_override family hfamily, hempty]
  exact Keyed.override_by_apart (h.apart hindependent)

end Family

/-- Keys that are told apart by their values are told apart by identifiers that hold them. -/
theorem family_of_key {κ α : Type} [BEq κ] [LawfulBEq κ] {family : Store → Keyed κ α}
    {kind : EventKind} {identify : κ → Identifier}
    (htells : ∀ event ∈ events, (family (alone settings event)).AtMostOne fun entry =>
      event.content.kind = kind ∧ event.content.identifier? = some (identify entry.1)) :
    Family settings events family (· == ·) kind fun entry => identify entry.1 where
  tells := htells
  unique _ _ _ _ _ _ _ _ hsame := congrArg identify (eq_of_beq hsame)

/-- Keys of stage attempts that agree are read as the same identifiers. -/
theorem family_of_attempt {α : Type} {family : Store → Keyed StageKey α} {kind : EventKind}
    (ids : α → Int × Int)
    (htells : ∀ event, (family (alone settings event)).AtMostOne fun entry =>
      event.content.kind = kind ∧ event.content.identifier? = some (.attempt (ids entry.2)) ∧
        entry.1.Reads (ids entry.2)) :
    Family settings events family StageKey.agrees kind fun entry => .attempt (ids entry.2) where
  tells event _ := (htells event).imp fun _ h => ⟨h.1, h.2.1⟩
  unique event _ entry hentry other _ entry' hentry' hsame := by
    obtain ⟨-, -, hreads⟩ := (htells event).of_mem hentry
    obtain ⟨-, -, hreads'⟩ := (htells other).of_mem hentry'
    exact congrArg Identifier.attempt (hreads.eq_of_agrees hreads' hsame)

/-! ## Tasks -/

/-- A task that ends in an independent event is not known. -/
theorem knows_task_of_independent {store : Store}
    (hindependent : (events ++ [event]).Pairwise Event.Independent)
    (hkeys : store.taskKeys = events.flatMap fun event => (alone settings event).taskKeys) :
    store.knowsTask (alone settings event) = false := by
  rw [Bool.eq_false_iff]
  intro hknown
  simp only [knowsTask, List.any_eq_true] at hknown
  obtain ⟨key, hkey, known, hmem, hagrees⟩ := hknown
  obtain ⟨other, hother, hadds⟩ := List.mem_flatMap.mp (hkeys ▸ hmem)
  obtain ⟨hnone, -⟩ | ⟨_, task, hadded, -, hkind, hid, hreads⟩ := (alone_tells settings event).tasks
  · simp [hnone] at hkey
  obtain ⟨hnone, -⟩ | ⟨_, task', hadded', -, hkind', hid', hreads'⟩ :=
    (alone_tells settings other).tasks
  · simp [hnone] at hadds
  rw [hadded, List.mem_singleton] at hkey
  rw [hadded', List.mem_singleton] at hadds
  subst hkey hadds
  have hne : other.Independent event :=
    (List.pairwise_append.mp hindependent).2.2 other hother event (List.mem_singleton_self event)
  -- Agreeing keys are read as the same integers, so both events have one identifier.
  rw [hreads.eq_of_agrees hreads' hagrees] at hid
  exact hne (hkind'.trans hkind.symm) _ hid' hid

/-- Independent events add all of their tasks. -/
theorem tasks_of_independent (hindependent : events.Pairwise Event.Independent) :
    (({} : Store).absorbAll settings events).taskKeys =
        events.flatMap (fun event => (alone settings event).taskKeys) ∧
      (({} : Store).absorbAll settings events).tasks =
        events.flatMap (fun event => (alone settings event).tasks) ∧
      (({} : Store).absorbAll settings events).accumulables =
        events.flatMap (fun event => (alone settings event).accumulables) := by
  induction events using List.reverseRecOn with
  | nil => exact ⟨rfl, rfl, rfl⟩
  | append_singleton before event ih =>
      obtain ⟨hkeys, htasks, haccumulables⟩ := ih (List.pairwise_append.mp hindependent).1
      have hnew := knows_task_of_independent hindependent hkeys
      simp [absorb_all_append, task_keys_absorb, tasks_absorb, accumulables_absorb, hnew, hkeys,
        htasks, haccumulables]

/-- The tasks of independent events have different identifiers. -/
theorem tasks_nodup_of_independent (hindependent : events.Pairwise Event.Independent) :
    ((events.flatMap fun event => (alone settings event).tasks).map Task.identifiers).Nodup := by
  rw [List.map_flatMap]
  refine List.pairwise_flatMap.mpr ⟨fun event _ => ?_, hindependent.imp ?_⟩
  · obtain ⟨-, hnone⟩ | ⟨_, task, -, htask, -⟩ := (alone_tells settings event).tasks
    · rw [hnone]
      exact .nil
    · rw [htask]
      exact List.pairwise_singleton _ _
  · intro event other hne id hid id' hid'
    obtain ⟨-, hnone⟩ | ⟨_, task, -, htask, hkind, hidentifier, -⟩ :=
      (alone_tells settings event).tasks
    · simp [hnone] at hid
    obtain ⟨-, hnone⟩ | ⟨_, task', -, htask', hkind', hidentifier', -⟩ :=
      (alone_tells settings other).tasks
    · simp [hnone] at hid'
    rw [htask, List.map_singleton, List.mem_singleton] at hid
    rw [htask', List.map_singleton, List.mem_singleton] at hid'
    rw [← hid] at hidentifier
    rw [← hid'] at hidentifier'
    exact fun he => hne (hkind.trans hkind'.symm) _ hidentifier (he ▸ hidentifier')

/-! ## Queries and plans -/

/-- The queries of events. -/
theorem queries_family : Family settings events (fun store => store.queries) (· == ·) .queryStart
    fun entry => .number entry.1 :=
  family_of_key fun event _ => (alone_tells settings event).queries

/-- Independent events add all of their queries. -/
theorem queries_of_independent (hindependent : events.Pairwise Event.Independent) :
    (({} : Store).absorbAll settings events).queries =
      ⟨events.flatMap fun event => (alone settings event).queries.entries⟩ :=
  queries_family.filled rfl (fun _ _ => rfl) hindependent

/-- A query that starts in an independent event is not known. -/
theorem knows_query_of_independent
    (hindependent : (events ++ [event]).Pairwise Event.Independent) :
    (({} : Store).absorbAll settings events).knowsQuery (alone settings event) = false := by
  obtain ⟨hbefore, -, hcross⟩ := List.pairwise_append.mp hindependent
  rw [Bool.eq_false_iff]
  intro hknown
  simp only [knowsQuery, List.any_eq_true] at hknown
  obtain ⟨id, hid, hhas⟩ := hknown
  obtain ⟨entry, hentry, rfl⟩ := List.mem_map.mp hid
  rw [queries_of_independent hbefore] at hhas
  obtain ⟨known, hmem, hsame⟩ := Keyed.find_by_is_some_iff.mp hhas
  obtain ⟨other, hother, hadds⟩ := List.mem_flatMap.mp hmem
  obtain ⟨hkind, hidentifier⟩ := (alone_tells settings event).queries.of_mem hentry
  obtain ⟨hkind', hidentifier'⟩ := (alone_tells settings other).queries.of_mem hadds
  rw [eq_of_beq hsame] at hidentifier'
  exact hcross other hother event (List.mem_singleton_self event) (hkind'.trans hkind.symm) _
    hidentifier' hidentifier

/-- Independent events put all of their plans in. -/
theorem PlansLike.of_independent {α : Type} {plansOf : Store → Keyed Int α}
    (h : PlansLike plansOf settings) (hempty : plansOf {} = .empty)
    (hindependent : events.Pairwise Event.Independent) :
    plansOf (({} : Store).absorbAll settings events) = Keyed.empty.overrideBy (· == ·)
      (events.flatMap fun event => (plansOf (alone settings event)).entries) := by
  induction events using List.reverseRecOn with
  | nil => exact hempty
  | append_singleton before event ih =>
      have hbefore := ih (List.pairwise_append.mp hindependent).1
      rw [absorb_all_append, absorb_all_cons, absorb_all_nil, h.absorb,
        knows_query_of_independent hindependent, hbefore, List.flatMap_append,
        Keyed.override_by_append, List.flatMap_singleton]
      rfl

/-- Where no plan is replaced, the plans of events come with the starts of their queries. -/
theorem PlansLike.family {α : Type} {plansOf : Store → Keyed Int α}
    (h : PlansLike plansOf settings)
    (hplans : ∀ event ∈ events, ∀ id, ¬ event.content.Replans id) :
    Family settings events plansOf (· == ·) .queryStart fun entry => .number entry.1 :=
  family_of_key fun event hmem =>
    (h.tells event).imp fun entry htells => htells.resolve_left (hplans event hmem entry.1)

/-! ## Gathering -/

/-- What each of some events adds. -/
def gather (settings : Settings) (events : List Event) : Store where
  application := events.findSome? fun event => (alone settings event).application
  finish := events.findSome? fun event => (alone settings event).finish
  version := ((events.filterMap fun event => event.content.version?).getLast?).getD ""
  accelerated :=
    ((events.filterMap fun event => event.content.accelerated? settings).getLast?).getD false
  properties :=
    Keyed.empty.overrideBy (· == ·) (events.flatMap fun event => event.content.properties)
  executors := ⟨events.flatMap fun event => (alone settings event).executors.entries⟩
  executorRemovals := events.flatMap fun event => (alone settings event).executorRemovals
  blockManagers := ⟨events.flatMap fun event => (alone settings event).blockManagers.entries⟩
  blockManagerRemovals := events.flatMap fun event => (alone settings event).blockManagerRemovals
  profiles := ⟨events.flatMap fun event => (alone settings event).profiles.entries⟩
  jobs := ⟨events.flatMap fun event => (alone settings event).jobs.entries⟩
  jobEnds := ⟨events.flatMap fun event => (alone settings event).jobEnds.entries⟩
  stages := ⟨events.flatMap fun event => (alone settings event).stages.entries⟩
  completions := ⟨events.flatMap fun event => (alone settings event).completions.entries⟩
  tasks := events.flatMap fun event => (alone settings event).tasks
  taskKeys := events.flatMap fun event => (alone settings event).taskKeys
  queries := ⟨events.flatMap fun event => (alone settings event).queries.entries⟩
  queryEnds := ⟨events.flatMap fun event => (alone settings event).queryEnds.entries⟩
  plans := ⟨events.flatMap fun event => (alone settings event).plans.entries⟩
  planTexts := ⟨events.flatMap fun event => (alone settings event).planTexts.entries⟩
  adaptiveMetrics := events.flatMap fun event => (alone settings event).adaptiveMetrics
  driverUpdates := events.flatMap fun event => (alone settings event).driverUpdates
  accumulables := events.flatMap fun event => (alone settings event).accumulables
  others := events.flatMap fun event => (alone settings event).others

/-- The executors of events. -/
theorem executors_family : Family settings events (fun store => store.executors) (· == ·)
    .executorAdded fun entry => .text entry.1 :=
  family_of_key fun event _ => (alone_tells settings event).executors

/-- The block managers of events. -/
theorem block_managers_family : Family settings events (fun store => store.blockManagers) (· == ·)
    .blockManagerAdded fun entry => .text entry.1 :=
  family_of_key fun event _ => (alone_tells settings event).blockManagers

/-- The resource profiles of events. -/
theorem profiles_family : Family settings events (fun store => store.profiles) (· == ·)
    .resourceProfileAdded fun entry => .number entry.1 :=
  family_of_key fun event _ => (alone_tells settings event).profiles

/-- The jobs of events. -/
theorem jobs_family : Family settings events (fun store => store.jobs) (· == ·) .jobStart
    fun entry => .number entry.1 :=
  family_of_key fun event _ =>
    (alone_tells settings event).jobs.imp fun _ h => ⟨h.1, h.2.1⟩

/-- The ends of jobs of events. -/
theorem job_ends_family : Family settings events (fun store => store.jobEnds) (· == ·) .jobEnd
    fun entry => .number entry.1 :=
  family_of_key fun event _ => (alone_tells settings event).jobEnds

/-- The stage attempts of events. -/
theorem stages_family : Family settings events (fun store => store.stages) StageKey.agrees
    .stageSubmitted fun entry => .attempt (entry.2.id, entry.2.attempt) :=
  family_of_attempt (fun stage : Stage => (stage.id, stage.attempt)) fun event =>
    (alone_tells settings event).stages

/-- The completions of stage attempts of events. -/
theorem completions_family : Family settings events (fun store => store.completions)
    StageKey.agrees .stageCompleted fun entry => .attempt (entry.2.id, entry.2.attempt) :=
  family_of_attempt (fun completion : StageCompletion => (completion.id, completion.attempt))
    fun event => (alone_tells settings event).completions

/-- The ends of queries of events. -/
theorem query_ends_family : Family settings events (fun store => store.queryEnds) (· == ·)
    .queryEnd fun entry => .number entry.1 :=
  family_of_key fun event _ => (alone_tells settings event).queryEnds

/-- A run over independent events, none of which replaces a plan, gathers what each of them adds. -/
theorem absorb_all_eq_gather (hindependent : events.Pairwise Event.Independent)
    (hplans : ∀ event ∈ events, ∀ id, ¬ event.content.Replans id) :
    ({} : Store).absorbAll settings events = gather settings events := by
  obtain ⟨hkeys, htasks, haccumulables⟩ := @tasks_of_independent settings events hindependent
  apply Store.ext
  case application => exact absorb_all_first (·.application) (fun _ _ => rfl) {} events
  case finish => exact absorb_all_first (·.finish) (fun _ _ => rfl) {} events
  case version => exact absorb_all_last (·.version) (fun _ _ => rfl) {} events
  case accelerated => exact absorb_all_last (·.accelerated) (fun _ _ => rfl) {} events
  case properties => exact absorb_all_override (·.properties) (fun _ _ => rfl) {} events
  case executors => exact executors_family.filled rfl (fun _ _ => rfl) hindependent
  case blockManagers => exact block_managers_family.filled rfl (fun _ _ => rfl) hindependent
  case profiles => exact profiles_family.overridden rfl (fun _ _ => rfl) hindependent
  case jobs => exact jobs_family.filled rfl (fun _ _ => rfl) hindependent
  case jobEnds => exact job_ends_family.filled rfl (fun _ _ => rfl) hindependent
  case stages => exact stages_family.filled rfl (fun _ _ => rfl) hindependent
  case completions => exact completions_family.overridden rfl (fun _ _ => rfl) hindependent
  case tasks => exact htasks
  case taskKeys => exact hkeys
  case accumulables => exact haccumulables
  case queries => exact queries_of_independent hindependent
  case queryEnds => exact query_ends_family.filled rfl (fun _ _ => rfl) hindependent
  case plans =>
    rw [plans_like.of_independent rfl hindependent]
    exact Keyed.override_by_apart ((plans_like.family hplans).apart hindependent)
  case planTexts =>
    rw [plan_texts_like.of_independent rfl hindependent]
    exact Keyed.override_by_apart ((plan_texts_like.family hplans).apart hindependent)
  case executorRemovals => exact absorb_all_list (·.executorRemovals) (fun _ _ => rfl) {} events
  case blockManagerRemovals =>
    exact absorb_all_list (·.blockManagerRemovals) (fun _ _ => rfl) {} events
  case adaptiveMetrics => exact absorb_all_list (·.adaptiveMetrics) (fun _ _ => rfl) {} events
  case driverUpdates => exact absorb_all_list (·.driverUpdates) (fun _ _ => rfl) {} events
  case others => exact absorb_all_list (·.others) (fun _ _ => rfl) {} events
  case finalized => exact absorb_all_same (·.finalized) (fun _ _ => rfl) {} events
  case graphs => exact absorb_all_same (·.graphs) (fun _ _ => rfl) {} events
  case metrics => exact absorb_all_same (·.metrics) (fun _ _ => rfl) {} events
  case nodeMetrics => exact absorb_all_same (·.nodeMetrics) (fun _ _ => rfl) {} events
  case flags => exact absorb_all_same (·.flags) (fun _ _ => rfl) {} events
  case unsupported => exact absorb_all_same (·.unsupported) (fun _ _ => rfl) {} events

/-! ## Rearranging -/

/-- Of some kinds, a log has one event only. -/
def IsSole (kind : EventKind) : Prop :=
  kind = .logStart ∨ kind = .applicationStart ∨ kind = .applicationEnd ∨ kind = .environmentUpdate

/-- An event of which a log has one only has the identifier for that. -/
theorem identifier_of_sole (h : IsSole event.content.kind) :
    event.content.identifier? = some .sole := by
  obtain ⟨name, content, extras⟩ := event
  cases content <;> first | rfl | simp [IsSole, EventContent.kind] at h

/-- What only one of some independent events adds does not depend on their order. -/
theorem flat_map_sole {β : Type} {kind : EventKind} (hsole : IsSole kind) {adds : Event → List β}
    (hadds : ∀ event, adds event ≠ [] → event.content.kind = kind) (hperm : events.Perm others)
    (hindependent : events.Pairwise Event.Independent) :
    events.flatMap adds = others.flatMap adds := by
  induction hperm with
  | nil => rfl
  | cons event _ ih =>
      rw [List.flatMap_cons, List.flatMap_cons, ih (List.pairwise_cons.mp hindependent).2]
  | swap event other rest =>
      -- Two events that both add something would be of the kind of which there is one only.
      have hne : other.Independent event :=
        (List.pairwise_cons.mp hindependent).1 event List.mem_cons_self
      have hone : adds event = [] ∨ adds other = [] := by
        by_contra hboth
        rw [not_or] at hboth
        obtain ⟨hevent, hother⟩ := hboth
        have hkind := hadds event hevent
        have hkind' := hadds other hother
        refine hne (hkind'.trans hkind.symm) .sole ?_ ?_
        · exact identifier_of_sole (hkind' ▸ hsole)
        · exact identifier_of_sole (hkind ▸ hsole)
      simp only [List.flatMap_cons]
      obtain hnone | hnone := hone <;> simp [hnone]
  | trans hfirst _ ih ih' =>
      exact (ih hindependent).trans (ih' (hfirst.pairwise hindependent Event.Independent.symm))

/-- What only one of some independent events tells does not depend on their order. -/
theorem filter_map_sole {β : Type} {kind : EventKind} (hsole : IsSole kind)
    {tells : Event → Option β} (htells : ∀ event, tells event ≠ none → event.content.kind = kind)
    (hperm : events.Perm others) (hindependent : events.Pairwise Event.Independent) :
    events.filterMap tells = others.filterMap tells := by
  rw [List.filterMap_eq_flatMap_toList, List.filterMap_eq_flatMap_toList]
  refine flat_map_sole hsole (fun event hadds => htells event ?_) hperm hindependent
  rintro hnone
  simp [hnone] at hadds

/-- Only the start of a log tells a version. -/
theorem kind_of_version (h : event.content.version? ≠ none) : event.content.kind = .logStart := by
  obtain ⟨name, content, extras⟩ := event
  cases content <;> first | rfl | exact absurd rfl h

/-- Only an update of the environment tells whether a run is accelerated. -/
theorem kind_of_accelerated (h : event.content.accelerated? settings ≠ none) :
    event.content.kind = .environmentUpdate := by
  obtain ⟨name, content, extras⟩ := event
  cases content <;> first | rfl | exact absurd rfl h

/-- Only an update of the environment sets properties. -/
theorem kind_of_properties (h : event.content.properties ≠ []) :
    event.content.kind = .environmentUpdate := by
  obtain ⟨name, content, extras⟩ := event
  cases content <;> first | rfl | exact absurd rfl h

/-- What independent events add does not depend on their order, but for the order of records. -/
theorem gather_rearranges (hperm : events.Perm others)
    (hindependent : events.Pairwise Event.Independent)
    (hplans : ∀ event ∈ events, ∀ id, ¬ event.content.Replans id) :
    (gather settings events).Rearranges (gather settings others) where
  finalized := rfl
  application := by
    have hsame := filter_map_sole (.inr (.inl rfl))
      (fun event => (alone_tells settings event).application) hperm hindependent
    simp only [gather, ← List.head?_filterMap, hsame]
  finish := by
    have hsame := filter_map_sole (.inr (.inr (.inl rfl)))
      (fun event => (alone_tells settings event).finish) hperm hindependent
    simp only [gather, ← List.head?_filterMap, hsame]
  version := by
    have hsame := filter_map_sole (.inl rfl) (fun _ => kind_of_version) hperm hindependent
    simp only [gather, hsame]
  accelerated := by
    have hsame := filter_map_sole (.inr (.inr (.inr rfl)))
      (fun event => @kind_of_accelerated settings event) hperm hindependent
    simp only [gather, hsame]
  properties := by
    have hsame := flat_map_sole (.inr (.inr (.inr rfl))) (fun _ => kind_of_properties) hperm
      hindependent
    simp only [gather, hsame]
  executors := ⟨hperm.flatMap_right _, executors_family.apart hindependent⟩
  executorRemovals := hperm.flatMap_right _
  blockManagers := ⟨hperm.flatMap_right _, block_managers_family.apart hindependent⟩
  blockManagerRemovals := hperm.flatMap_right _
  profiles := ⟨hperm.flatMap_right _, profiles_family.apart hindependent⟩
  jobs := ⟨hperm.flatMap_right _, jobs_family.apart hindependent⟩
  jobEnds := ⟨hperm.flatMap_right _, job_ends_family.apart hindependent⟩
  stages := ⟨hperm.flatMap_right _, stages_family.apart hindependent⟩
  completions := ⟨hperm.flatMap_right _, completions_family.apart hindependent⟩
  tasks := hperm.flatMap_right _
  taskKeys := hperm.flatMap_right _
  queries := ⟨hperm.flatMap_right _, queries_family.apart hindependent⟩
  queryEnds := ⟨hperm.flatMap_right _, query_ends_family.apart hindependent⟩
  plans := ⟨hperm.flatMap_right _, (plans_like.family hplans).apart hindependent⟩
  planTexts := ⟨hperm.flatMap_right _, (plan_texts_like.family hplans).apart hindependent⟩
  adaptiveMetrics := hperm.flatMap_right _
  driverUpdates := hperm.flatMap_right _
  accumulables := hperm.flatMap_right _
  graphs := ⟨.nil, .nil⟩
  metrics := .nil
  nodeMetrics := .nil
  flags := .nil
  unsupported := .nil
  others := hperm.flatMap_right _

/-- No two jobs, stage attempts or tasks of independent events have the same identifiers. -/
theorem gather_unambiguous (hindependent : events.Pairwise Event.Independent) :
    (gather settings events).Unambiguous where
  jobs := by
    refine List.pairwise_map.mpr (List.pairwise_map.mpr ?_)
    refine ((@jobs_family settings events).pairwise hindependent).imp_of_mem ?_
    intro entry entry' hmem hmem' hne he
    obtain ⟨event, -, hentry⟩ := List.mem_flatMap.mp hmem
    obtain ⟨other, -, hentry'⟩ := List.mem_flatMap.mp hmem'
    obtain ⟨-, -, hid⟩ := (alone_tells settings event).jobs.of_mem hentry
    obtain ⟨-, -, hid'⟩ := (alone_tells settings other).jobs.of_mem hentry'
    exact hne (congrArg Identifier.number (hid.symm.trans (he.trans hid')))
  stages := by
    refine List.pairwise_map.mpr (List.pairwise_map.mpr ?_)
    exact ((@stages_family settings events).pairwise hindependent).imp fun hne he =>
      hne (congrArg Identifier.attempt he)
  tasks := tasks_nodup_of_independent hindependent

/-- A run over independent events, none of which replaces a plan, holds the same in every order. -/
theorem absorb_all_rearranges (hperm : events.Perm others)
    (hindependent : events.Pairwise Event.Independent)
    (hplans : ∀ event ∈ events, ∀ id, ¬ event.content.Replans id) :
    (({} : Store).absorbAll settings events).Rearranges
        (({} : Store).absorbAll settings others) ∧
      (({} : Store).absorbAll settings events).Unambiguous ∧
      (({} : Store).absorbAll settings events).graphs = .empty := by
  have hothers := hperm.pairwise hindependent Event.Independent.symm
  have hplans' : ∀ event ∈ others, ∀ id, ¬ event.content.Replans id :=
    fun event hmem => hplans event (hperm.mem_iff.mpr hmem)
  rw [absorb_all_eq_gather hindependent hplans, absorb_all_eq_gather hothers hplans']
  exact ⟨gather_rearranges hperm hindependent hplans, gather_unambiguous hindependent, rfl⟩

end Store

end SparkLog
