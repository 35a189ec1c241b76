import SparkLog.Proofs.Derivation.Repetition
import SparkLog.Proofs.Ingestion.Families
import SparkLog.Proofs.Ingestion.Interruption

/-!
# Taking events in twice

A run over events that were taken in before adds nothing to the families where the first or the last
record of a key stays, and no task. What it puts behind a list was there before, too. The one
family that needs care is the plans of queries: the start of a query puts a plan in as a first
record, an update of the plan as a last one, so updates must not come before starts.
-/

namespace SparkLog

/-- No plan of a query is replaced before the query is started for the first time. -/
def UpdatesFollowStarts (events : List Event) : Prop :=
  ∀ before update after, events = before ++ update :: after → ∀ id, update.content.Replans id →
    (∃ start ∈ after, start.content.Starts id) → ∃ start ∈ before, start.content.Starts id

namespace Store

variable {settings : Settings} {store : Store} {event : Event} {events : List Event}

/-! ## Plans -/

/-- A query whose plan was replaced is known when it is started. -/
theorem knows_query_of_replanned {after : List Event} {update : Event} {id : Int}
    (horder : UpdatesFollowStarts (events ++ event :: after)) (hupdate : update ∈ events)
    (hreplans : update.content.Replans id) (hstarts : event.content.Starts id) :
    (({} : Store).absorbAll settings events).knowsQuery (alone settings event) = true := by
  obtain ⟨before, between, rfl⟩ := List.append_of_mem hupdate
  obtain ⟨start, hstart, hfirst⟩ := horder before update (between ++ event :: after)
    (by simp) id hreplans ⟨event, by simp, hstarts⟩
  obtain ⟨query, hquery⟩ := @queries_of_starts settings event _ hstarts
  obtain ⟨first, hfirst⟩ := @queries_of_starts settings start _ hfirst
  have hknown := @has_query_absorb_all settings {} start (before ++ update :: between)
    (List.mem_append_left _ hstart) (id, first) (hfirst ▸ List.mem_singleton_self _)
  simpa only [knowsQuery, Keyed.keys, hquery, List.map_cons, List.map_nil, List.any_cons,
    List.any_nil, Bool.or_false] using hknown

section Plans

variable {α : Type} (plansOf : Store → Keyed Int α)

/-- What an event puts in the place of plans of queries. -/
def replanned (settings : Settings) (event : Event) : List (Int × α) :=
  if (alone settings event).queries.entries = [] then (plansOf (alone settings event)).entries
  else []

variable {plansOf} (h : PlansLike plansOf settings)
include h

/-- What an event puts in the place of a plan replaces it. -/
theorem PlansLike.replans {entry : Int × α} (hmem : entry ∈ replanned plansOf settings event) :
    event.content.Replans entry.1 := by
  unfold replanned at hmem
  split at hmem
  · rename_i hnone
    refine ((h.tells event).of_mem hmem).resolve_right fun hstarts => ?_
    obtain ⟨query, hquery⟩ := @queries_of_starts settings event _ hstarts
    simp [hnone] at hquery
  · cases hmem

/-- What an event that starts a query puts in is the plan of that query. -/
theorem PlansLike.starts (hqueries : (alone settings event).queries.entries ≠ [])
    {entry : Int × α} (hmem : entry ∈ (plansOf (alone settings event)).entries) :
    event.content.Starts entry.1 := by
  refine ((h.tells event).of_mem hmem).resolve_left ?_
  rintro ⟨planText, plan, hcontent⟩
  obtain ⟨query, hquery⟩ := List.exists_mem_of_ne_nil _ hqueries
  obtain ⟨hkind, -⟩ := (alone_tells settings event).queries.of_mem hquery
  rw [hcontent] at hkind
  cases hkind

/-- A run that starts only queries that are known puts in what replaces plans. -/
theorem PlansLike.absorb_all_known
    (hknown : ∀ event ∈ events, ∀ entry ∈ (alone settings event).queries.entries,
      store.queries.has entry.1 = true) :
    plansOf (store.absorbAll settings events) =
      (plansOf store).overrideBy (· == ·) (events.flatMap (replanned plansOf settings)) := by
  induction events generalizing store with
  | nil => rfl
  | cons event rest ih =>
      obtain ⟨hfirst, hrest⟩ := List.forall_mem_cons.mp hknown
      have hnext : plansOf (store.absorb settings event) =
          (plansOf store).overrideBy (· == ·) (replanned plansOf settings event) := by
        rw [h.absorb]
        cases hqueries : (alone settings event).queries.entries with
        | nil => simp [replanned, knowsQuery, Keyed.keys, hqueries]
        | cons entry others =>
            have hhas := hfirst entry (hqueries ▸ List.mem_cons_self)
            simp [replanned, knowsQuery, Keyed.keys, hqueries, hhas]
      rw [absorb_all_cons, ih fun other hmem entry hentry =>
        has_query_absorb (hrest other hmem entry hentry), hnext]
      simp [Keyed.overrideBy]

/-- A start of a query that no event has started puts in no plan that an event has replaced. -/
theorem PlansLike.no_plan_of_unknown {after : List Event}
    (horder : UpdatesFollowStarts (events ++ event :: after))
    (hqueries : (alone settings event).queries.entries ≠ [])
    (hunknown : ¬ (({} : Store).absorbAll settings events).knowsQuery (alone settings event) = true)
    {key : Int} {value : α}
    (hlast : (Keyed.empty.overrideBy (· == ·)
      (events.flatMap (replanned plansOf settings))).findBy? (· == ·) key = some value) :
    (Keyed.empty.overrideBy (· == ·) (plansOf (alone settings event)).entries).findBy?
      (· == ·) key = none := by
  by_contra hsome
  obtain ⟨other, hother⟩ := Option.ne_none_iff_exists'.mp hsome
  obtain ⟨entry, hentry, hkey, -⟩ := Keyed.mem_of_overridden beq_equivalence hother
  have hstarts := eq_of_beq hkey ▸ h.starts hqueries hentry
  obtain ⟨update, hupdate, hreplans⟩ : ∃ update ∈ events, update.content.Replans key := by
    obtain ⟨entry, hmem, hkey, -⟩ := Keyed.mem_of_overridden beq_equivalence hlast
    obtain ⟨update, hupdate, hmem⟩ := List.mem_flatMap.mp hmem
    exact ⟨update, hupdate, eq_of_beq hkey ▸ h.replans hmem⟩
  exact hunknown (knows_query_of_replanned horder hupdate hreplans hstarts)

/-- If no update comes before a start, the last update of the plan of a query is in the store. -/
theorem PlansLike.last_update {after : List Event} (horder : UpdatesFollowStarts (events ++ after))
    {key : Int} {value : α}
    (hlast : (Keyed.empty.overrideBy (· == ·)
      (events.flatMap (replanned plansOf settings))).findBy? (· == ·) key = some value) :
    (plansOf (({} : Store).absorbAll settings events)).findBy? (· == ·) key = some value := by
  induction events using List.reverseRecOn generalizing after with
  | nil => cases hlast
  | append_singleton before event ih =>
      rw [List.append_assoc] at horder
      rw [absorb_all_append, absorb_all_cons, absorb_all_nil, h.absorb]
      rw [List.flatMap_append, Keyed.override_by_append, Keyed.find_by_override_by beq_equivalence,
        List.flatMap_singleton] at hlast
      by_cases hqueries : (alone settings event).queries.entries = []
      · -- An update: its entries come last on both sides.
        rw [replanned, if_pos hqueries] at hlast
        rw [if_neg (by simp [knowsQuery, Keyed.keys, hqueries]),
          Keyed.find_by_override_by beq_equivalence]
        cases hfound : (Keyed.empty.overrideBy (· == ·)
            (plansOf (alone settings event)).entries).findBy? (· == ·) key with
        | none =>
            rw [hfound] at hlast
            simpa using ih horder hlast
        | some found =>
            rw [hfound] at hlast
            simpa using hlast
      · -- A start: it may put the plan in only if none is there, for updates do not come before.
        rw [replanned, if_neg hqueries] at hlast
        have hbefore := ih horder hlast
        split
        · exact hbefore
        · rename_i hunknown
          have hnone := h.no_plan_of_unknown horder hqueries hunknown hlast
          rw [Keyed.find_by_override_by beq_equivalence, hbefore]
          simp [hnone]

/-- After a run, there is one plan for a query. -/
theorem PlansLike.apart (hempty : plansOf {} = .empty) :
    (plansOf (({} : Store).absorbAll settings events)).Apart (· == ·) := by
  induction events using List.reverseRecOn with
  | nil =>
      rw [absorb_all_nil, hempty]
      exact List.Pairwise.nil
  | append_singleton before event ih =>
      rw [absorb_all_append, absorb_all_cons, absorb_all_nil, h.absorb]
      split
      · exact ih
      · exact ih.override_by _

/-- A run that is taken in again leaves the plans as they are. -/
theorem PlansLike.again (hempty : plansOf {} = .empty) (horder : UpdatesFollowStarts events) :
    plansOf ((({} : Store).absorbAll settings events).absorbAll settings events) =
      plansOf (({} : Store).absorbAll settings events) := by
  rw [h.absorb_all_known fun event hmem entry hentry => has_query_absorb_all hmem hentry]
  refine Keyed.override_by_eq_self beq_equivalence (h.apart hempty) fun key value hlast => ?_
  exact @PlansLike.last_update settings events α plansOf h [] (by rwa [List.append_nil]) key value
    hlast

end Plans

/-! ## Runs -/

section Again

variable {κ α : Type} {same : κ → κ → Bool}

/-- A family that events fill is full after a run. -/
theorem fill_again (hsame : Equivalence fun a b => same a b = true) (family : Store → Keyed κ α)
    {news : Event → List (κ × α)} (hfamily : ∀ store event,
      family (store.absorb settings event) = (family store).fillBy same (news event))
    (store : Store) (events : List Event) :
    family ((store.absorbAll settings events).absorbAll settings events) =
      family (store.absorbAll settings events) := by
  rw [absorb_all_fill family hfamily, absorb_all_fill family hfamily]
  exact Keyed.fill_by_twice hsame (family store) _

/-- A family that events override has the last records after a run. -/
theorem override_again (hsame : Equivalence fun a b => same a b = true)
    (family : Store → Keyed κ α) {news : Event → List (κ × α)} (hfamily : ∀ store event,
      family (store.absorb settings event) = (family store).overrideBy same (news event))
    (store : Store) (hapart : (family store).Apart same) (events : List Event) :
    family ((store.absorbAll settings events).absorbAll settings events) =
      family (store.absorbAll settings events) := by
  rw [absorb_all_override family hfamily, absorb_all_override family hfamily]
  exact Keyed.override_by_twice hsame hapart _

/-- A fact that the first event settles is settled after a run. -/
theorem first_again (family : Store → Option α) {news : Event → Option α}
    (hfamily : ∀ store event,
      family (store.absorb settings event) = (family store).or (news event))
    (store : Store) (events : List Event) :
    family ((store.absorbAll settings events).absorbAll settings events) =
      family (store.absorbAll settings events) := by
  rw [absorb_all_first family hfamily, absorb_all_first family hfamily, Option.or_assoc,
    Option.or_self]

/-- A fact that the last event settles is settled after a run. -/
theorem last_again (family : Store → α) {news : Event → Option α}
    (hfamily : ∀ store event,
      family (store.absorb settings event) = (news event).getD (family store))
    (store : Store) (events : List Event) :
    family ((store.absorbAll settings events).absorbAll settings events) =
      family (store.absorbAll settings events) := by
  rw [absorb_all_last family hfamily, absorb_all_last family hfamily]
  cases (events.filterMap news).getLast? <;> rfl

end Again

/-- What events append when they are taken in again. -/
def repeated (settings : Settings) (events : List Event) : Repeats where
  executorRemovals := events.flatMap fun event => (alone settings event).executorRemovals
  blockManagerRemovals := events.flatMap fun event => (alone settings event).blockManagerRemovals
  adaptiveMetrics := events.flatMap fun event => (alone settings event).adaptiveMetrics
  driverUpdates := events.flatMap fun event => (alone settings event).driverUpdates
  accumulables := events.flatMap (reported settings)
  others := events.flatMap fun event => (alone settings event).others

/-- What events append when they are taken in again was there before. -/
theorem repeated_within :
    (repeated settings events).Within (({} : Store).absorbAll settings events) where
  executorRemovals := by
    rw [absorb_all_list (·.executorRemovals) (fun _ _ => rfl)]
    exact List.subset_append_right _ _
  blockManagerRemovals := by
    rw [absorb_all_list (·.blockManagerRemovals) (fun _ _ => rfl)]
    exact List.subset_append_right _ _
  adaptiveMetrics := by
    rw [absorb_all_list (·.adaptiveMetrics) (fun _ _ => rfl)]
    exact List.subset_append_right _ _
  driverUpdates := by
    rw [absorb_all_list (·.driverUpdates) (fun _ _ => rfl)]
    exact List.subset_append_right _ _
  accumulables := by
    intro accumulable hmem
    obtain ⟨event, hevent, hreported⟩ := List.mem_flatMap.mp hmem
    exact reported_subset hevent hreported
  others := by
    rw [absorb_all_list (·.others) (fun _ _ => rfl)]
    exact List.subset_append_right _ _

/-- Events that are taken in again append to the lists that only grow, and change nothing else. -/
theorem absorb_all_again (horder : UpdatesFollowStarts events) :
    (({} : Store).absorbAll settings events).absorbAll settings events =
      (({} : Store).absorbAll settings events).append (repeated settings events) := by
  obtain ⟨hkeys, htasks, haccumulables⟩ := @absorb_all_known_tasks settings
    (({} : Store).absorbAll settings events) events fun event hmem => knows_task_absorb_all hmem
  apply Store.ext
  case application => exact first_again (·.application) (fun _ _ => rfl) {} events
  case finish => exact first_again (·.finish) (fun _ _ => rfl) {} events
  case version => exact last_again (·.version) (fun _ _ => rfl) {} events
  case accelerated => exact last_again (·.accelerated) (fun _ _ => rfl) {} events
  case executors => exact fill_again beq_equivalence (·.executors) (fun _ _ => rfl) {} events
  case blockManagers =>
    exact fill_again beq_equivalence (·.blockManagers) (fun _ _ => rfl) {} events
  case profiles =>
    exact override_again beq_equivalence (·.profiles) (fun _ _ => rfl) {} .nil events
  case properties =>
    exact override_again beq_equivalence (·.properties) (fun _ _ => rfl) {} .nil events
  case jobs => exact fill_again beq_equivalence (·.jobs) (fun _ _ => rfl) {} events
  case jobEnds => exact fill_again beq_equivalence (·.jobEnds) (fun _ _ => rfl) {} events
  case stages =>
    exact fill_again StageKey.agrees_equivalence (·.stages) (fun _ _ => rfl) {} events
  case completions =>
    exact override_again StageKey.agrees_equivalence (·.completions) (fun _ _ => rfl) {} .nil events
  case tasks => exact htasks
  case taskKeys => exact hkeys
  case accumulables => exact haccumulables
  case queries => exact fill_again beq_equivalence (·.queries) (fun _ _ => rfl) {} events
  case queryEnds => exact fill_again beq_equivalence (·.queryEnds) (fun _ _ => rfl) {} events
  case plans => exact plans_like.again rfl horder
  case planTexts => exact plan_texts_like.again rfl horder
  case executorRemovals => exact absorb_all_list (·.executorRemovals) (fun _ _ => rfl) _ events
  case blockManagerRemovals =>
    exact absorb_all_list (·.blockManagerRemovals) (fun _ _ => rfl) _ events
  case adaptiveMetrics => exact absorb_all_list (·.adaptiveMetrics) (fun _ _ => rfl) _ events
  case driverUpdates => exact absorb_all_list (·.driverUpdates) (fun _ _ => rfl) _ events
  case others => exact absorb_all_list (·.others) (fun _ _ => rfl) _ events
  case finalized => exact absorb_all_same (·.finalized) (fun _ _ => rfl) _ events
  case graphs => exact absorb_all_same (·.graphs) (fun _ _ => rfl) _ events
  case metrics => exact absorb_all_same (·.metrics) (fun _ _ => rfl) _ events
  case nodeMetrics => exact absorb_all_same (·.nodeMetrics) (fun _ _ => rfl) _ events
  case flags => exact absorb_all_same (·.flags) (fun _ _ => rfl) _ events
  case unsupported => exact absorb_all_same (·.unsupported) (fun _ _ => rfl) _ events

end Store

end SparkLog
