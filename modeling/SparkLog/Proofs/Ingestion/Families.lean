import Mathlib.Data.List.Flatten
import SparkLog.Proofs.Ingestion.Identity

/-!
# Families of records over a run

Most families of a store are told by what the events of a run add to them, whatever the other
families are: the first record of a key stays (`absorb_all_fill`), the last one does
(`absorb_all_override`), or records are put behind those before (`absorb_all_append`). Tasks and
plans depend on what is known when they come: a task attempt that is known adds nothing, and neither
does the start of a query that is known.
-/

namespace SparkLog

attribute [ext] Store

namespace Store

variable {settings : Settings} {store : Store} {event : Event} {events : List Event}

@[simp]
theorem absorb_all_nil : store.absorbAll settings [] = store := rfl

@[simp]
theorem absorb_all_cons : store.absorbAll settings (event :: events) =
    (store.absorb settings event).absorbAll settings events := rfl

@[simp]
theorem absorb_all_append {others : List Event} : store.absorbAll settings (events ++ others) =
    (store.absorbAll settings events).absorbAll settings others :=
  List.foldl_append

/-! ## Families of their own -/

section Families

variable {κ α : Type} {same : κ → κ → Bool}

/-- A family that events fill is filled with all that they add. -/
theorem absorb_all_fill (family : Store → Keyed κ α) {news : Event → List (κ × α)}
    (hfamily : ∀ store event,
      family (store.absorb settings event) = (family store).fillBy same (news event))
    (store : Store) (events : List Event) : family (store.absorbAll settings events) =
      (family store).fillBy same (events.flatMap news) := by
  induction events generalizing store with
  | nil => rfl
  | cons event rest ih => simp [ih, hfamily, Keyed.fillBy]

/-- A family that events override is overridden by all that they add. -/
theorem absorb_all_override (family : Store → Keyed κ α) {news : Event → List (κ × α)}
    (hfamily : ∀ store event,
      family (store.absorb settings event) = (family store).overrideBy same (news event))
    (store : Store) (events : List Event) : family (store.absorbAll settings events) =
      (family store).overrideBy same (events.flatMap news) := by
  induction events generalizing store with
  | nil => rfl
  | cons event rest ih => simp [ih, hfamily, Keyed.overrideBy]

/-- A family that events are appended to has all that they add behind what was there. -/
theorem absorb_all_list (family : Store → List α) {news : Event → List α}
    (hfamily : ∀ store event, family (store.absorb settings event) = family store ++ news event)
    (store : Store) (events : List Event) :
    family (store.absorbAll settings events) = family store ++ events.flatMap news := by
  induction events generalizing store with
  | nil => simp
  | cons event rest ih => simp [ih, hfamily]

/-- A fact that the first event settles is settled by the first event that tells it. -/
theorem absorb_all_first (family : Store → Option α) {news : Event → Option α}
    (hfamily : ∀ store event,
      family (store.absorb settings event) = (family store).or (news event))
    (store : Store) (events : List Event) : family (store.absorbAll settings events) =
      (family store).or (events.findSome? news) := by
  induction events generalizing store with
  | nil => simp
  | cons event rest ih =>
      rw [absorb_all_cons, ih, hfamily, Option.or_assoc, List.findSome?_cons]
      cases news event <;> rfl

/-- A fact that the last event settles is settled by the last event that tells it. -/
theorem absorb_all_last (family : Store → α) {news : Event → Option α}
    (hfamily : ∀ store event,
      family (store.absorb settings event) = (news event).getD (family store))
    (store : Store) (events : List Event) : family (store.absorbAll settings events) =
      ((events.filterMap news).getLast?).getD (family store) := by
  induction events using List.reverseRecOn with
  | nil => rfl
  | append_singleton events event ih =>
      rw [absorb_all_append, absorb_all_cons, absorb_all_nil, hfamily, ih, List.filterMap_append]
      cases h : news event <;> simp [h]

/-- What every event keeps is kept over a run. -/
theorem absorb_all_subset (family : Store → List α)
    (hfamily : ∀ store event, family store ⊆ family (store.absorb settings event))
    (store : Store) (events : List Event) :
    family store ⊆ family (store.absorbAll settings events) := by
  induction events generalizing store with
  | nil => exact fun _ h => h
  | cons event rest ih => exact List.Subset.trans (hfamily store event) (ih _)

/-- What no event touches stays as it is. -/
theorem absorb_all_same (family : Store → α)
    (hfamily : ∀ store event, family (store.absorb settings event) = family store)
    (store : Store) (events : List Event) :
    family (store.absorbAll settings events) = family store := by
  induction events generalizing store with
  | nil => rfl
  | cons event rest ih => rw [absorb_all_cons, ih, hfamily]

end Families

/-! ## Tasks and accumulables -/

/-- A task key agrees with itself. -/
theorem agrees_task_self (key : TaskKey) : key.agrees key = true := by
  simp [TaskKey.agrees, Scalar.agrees]

theorem task_keys_absorb : (store.absorb settings event).taskKeys =
    if store.knowsTask (alone settings event) then store.taskKeys
    else store.taskKeys ++ (alone settings event).taskKeys := rfl

theorem tasks_absorb : (store.absorb settings event).tasks =
    if store.knowsTask (alone settings event) then store.tasks
    else store.tasks ++ (alone settings event).tasks := rfl

theorem accumulables_absorb : (store.absorb settings event).accumulables =
    if store.knowsTask (alone settings event) then store.accumulables
    else store.accumulables ++ (alone settings event).accumulables := rfl

/-- Task keys stay. -/
theorem task_keys_subset_absorb : store.taskKeys ⊆ (store.absorb settings event).taskKeys := by
  rw [task_keys_absorb]
  split <;> simp

/-- Task keys stay over a run. -/
theorem task_keys_subset_absorb_all :
    store.taskKeys ⊆ (store.absorbAll settings events).taskKeys :=
  absorb_all_subset (·.taskKeys) (fun _ _ => task_keys_subset_absorb) store events

/-- A task attempt that is known is known where more keys are there. -/
theorem knows_task_mono {later added : Store} (hkeys : store.taskKeys ⊆ later.taskKeys)
    (h : store.knowsTask added = true) : later.knowsTask added = true := by
  simp only [knowsTask, List.any_eq_true] at h ⊢
  obtain ⟨key, hkey, known, hknown, hagrees⟩ := h
  exact ⟨key, hkey, known, hkeys hknown, hagrees⟩

/-- An event that ends a task makes its attempt known. -/
theorem knows_task_absorb : (alone settings event).taskKeys = [] ∨
    (store.absorb settings event).knowsTask (alone settings event) = true := by
  obtain ⟨hnone, -⟩ | ⟨key, task, hkey, -⟩ := (alone_tells settings event).tasks
  · exact .inl hnone
  · refine .inr ?_
    cases hknown : store.knowsTask (alone settings event) with
    | true => exact knows_task_mono task_keys_subset_absorb hknown
    | false =>
        have hmem : key ∈ (store.absorb settings event).taskKeys := by
          simp [task_keys_absorb, hknown, hkey]
        simp only [knowsTask, hkey, List.any_cons, List.any_nil, Bool.or_false]
        exact List.any_eq_true.mpr ⟨key, hmem, agrees_task_self key⟩

/-- After a run, all task attempts are known that ended in it. -/
theorem knows_task_absorb_all (hmem : event ∈ events) : (alone settings event).taskKeys = [] ∨
    (store.absorbAll settings events).knowsTask (alone settings event) = true := by
  induction events generalizing store with
  | nil => cases hmem
  | cons first rest ih =>
      rw [absorb_all_cons]
      obtain rfl | hmem := List.mem_cons.mp hmem
      · obtain hnone | hknown := @knows_task_absorb settings store event
        · exact .inl hnone
        · exact .inr (knows_task_mono task_keys_subset_absorb_all hknown)
      · exact ih hmem

/-- What an event reports without ending a task. -/
def reported (settings : Settings) (event : Event) : List Accumulable :=
  if (alone settings event).taskKeys = [] then (alone settings event).accumulables else []

/-- Accumulables stay. -/
theorem accumulables_subset_absorb :
    store.accumulables ⊆ (store.absorb settings event).accumulables := by
  rw [accumulables_absorb]
  split <;> simp

/-- Accumulables stay over a run. -/
theorem accumulables_subset_absorb_all :
    store.accumulables ⊆ (store.absorbAll settings events).accumulables :=
  absorb_all_subset (·.accumulables) (fun _ _ => accumulables_subset_absorb) store events

/-- After a run, all is there that was reported in it without ending a task. -/
theorem reported_subset (hmem : event ∈ events) :
    reported settings event ⊆ (store.absorbAll settings events).accumulables := by
  induction events generalizing store with
  | nil => cases hmem
  | cons first rest ih =>
      obtain rfl | hmem := List.mem_cons.mp hmem
      · suffices hfirst : reported settings event ⊆ (store.absorb settings event).accumulables from
          List.Subset.trans hfirst accumulables_subset_absorb_all
        unfold reported
        split
        · rename_i hnone
          simp [accumulables_absorb, knowsTask, hnone]
        · simp
      · exact ih hmem

/-- A run that ends only task attempts that are known adds no task. -/
theorem absorb_all_known_tasks
    (h : ∀ event ∈ events, (alone settings event).taskKeys = [] ∨
      store.knowsTask (alone settings event) = true) :
    (store.absorbAll settings events).taskKeys = store.taskKeys ∧
      (store.absorbAll settings events).tasks = store.tasks ∧
      (store.absorbAll settings events).accumulables =
        store.accumulables ++ events.flatMap (reported settings) := by
  induction events generalizing store with
  | nil => simp
  | cons event rest ih =>
      obtain ⟨hfirst, hrest⟩ := List.forall_mem_cons.mp h
      have hnext : (store.absorb settings event).taskKeys = store.taskKeys ∧
          (store.absorb settings event).tasks = store.tasks ∧
          (store.absorb settings event).accumulables =
            store.accumulables ++ reported settings event := by
        obtain ⟨hnone, htasks⟩ | ⟨key, task, hkey, -⟩ := (alone_tells settings event).tasks
        · simp [task_keys_absorb, tasks_absorb, accumulables_absorb, knowsTask, reported, hnone,
            htasks]
        · have hknown := hfirst.resolve_left (by simp [hkey])
          simp [task_keys_absorb, tasks_absorb, accumulables_absorb, reported, hknown, hkey]
      obtain ⟨hkeys, htasks, haccumulables⟩ := ih fun other hmem =>
        (hrest other hmem).imp_right (knows_task_mono task_keys_subset_absorb)
      rw [absorb_all_cons, hkeys, htasks, haccumulables, hnext.1, hnext.2.1, hnext.2.2]
      simp

/-! ## Plans -/

/-- After a run, all queries are known that started in it. -/
theorem has_query_absorb_all (hmem : event ∈ events) {entry : Int × Query}
    (hentry : entry ∈ (alone settings event).queries.entries) :
    (store.absorbAll settings events).queries.has entry.1 = true := by
  rw [absorb_all_fill (·.queries) (fun _ _ => rfl)]
  exact Keyed.is_some_of_filled beq_equivalence (List.mem_flatMap.mpr ⟨event, hmem, hentry⟩)

/-- A query that is known stays known. -/
theorem has_query_absorb {id : Int} (h : store.queries.has id = true) :
    (store.absorb settings event).queries.has id = true :=
  Keyed.is_some_fill_by beq_equivalence _ h

/-- The start of a query adds the query. -/
theorem queries_of_starts {id : Int} (h : event.content.Starts id) :
    ∃ query, (alone settings event).queries.entries = [(id, query)] := by
  obtain ⟨name, content, extras⟩ := event
  obtain ⟨hkind, hid⟩ := h
  cases content with
  | queryStart other description details planText plan time =>
      obtain ⟨⟩ := hid
      exact ⟨_, rfl⟩
  | _ => cases hkind

/-- A family like that of plans: events put entries in, unless they start a query that is known. -/
structure PlansLike {α : Type} (plansOf : Store → Keyed Int α) (settings : Settings) : Prop where
  absorb : ∀ store event, plansOf (store.absorb settings event) =
    if store.knowsQuery (alone settings event) then plansOf store
    else (plansOf store).overrideBy (· == ·) (plansOf (alone settings event)).entries
  tells : ∀ event, (plansOf (alone settings event)).AtMostOne fun entry =>
    event.content.Replans entry.1 ∨ event.content.Starts entry.1

/-- The plans of queries are a family like that. -/
theorem plans_like : PlansLike (fun store => store.plans) settings where
  absorb _ _ := rfl
  tells event := (alone_tells settings event).plans

/-- The texts of plans are a family like that. -/
theorem plan_texts_like : PlansLike (fun store => store.planTexts) settings where
  absorb _ _ := rfl
  tells event := (alone_tells settings event).planTexts

end Store

end SparkLog
