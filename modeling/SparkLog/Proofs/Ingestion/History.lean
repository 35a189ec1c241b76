import SparkLog.Proofs.Ingestion.Entries

/-!
# The store as a function of the history

The history of a run is the list of its events that did not fail (`Store.handled`). What the first
or the last of them tells about a key is what the store has under it, and tasks, accumulables and
plans follow from the history without the events that repeat an earlier one (`Store.Recorded`). One
event keeps that (`Recorded.apply`), and so does a run (`recorded_absorb_all`).
-/

namespace SparkLog

/-! ## Look-ups -/

section Told

variable {κ α : Type} {same : κ → κ → Bool}

/-- What the first entry of a key tells. -/
def firstTold (same : κ → κ → Bool) (told : List (κ × α)) (key : κ) : Option α :=
  (told.find? fun entry => same entry.1 key).map Prod.snd

/-- What the last entry of a key tells. -/
def lastTold (same : κ → κ → Bool) (told : List (κ × α)) (key : κ) : Option α :=
  firstTold same told.reverse key

/-- One more entry tells something first about a key if no other does. -/
theorem first_told_concat (told : List (κ × α)) (entry : κ × α) (key : κ) :
    firstTold same (told ++ [entry]) key =
      (firstTold same told key).or (if same entry.1 key then some entry.2 else none) := by
  unfold firstTold
  rw [List.find?_append, Option.map_or, List.find?_singleton]
  split <;> rfl

/-- One more entry tells something last about its key. -/
theorem last_told_concat (told : List (κ × α)) (entry : κ × α) (key : κ) :
    lastTold same (told ++ [entry]) key =
      if same entry.1 key then some entry.2 else lastTold same told key := by
  unfold lastTold firstTold
  rw [List.reverse_append, List.reverse_singleton, List.singleton_append, List.find?_cons]
  cases same entry.1 key <;> rfl

/-- Something is told about a key exactly if some entry is about it. -/
theorem first_told_is_some (told : List (κ × α)) (key : κ) :
    (firstTold same told key).isSome = told.any fun entry => same entry.1 key := by
  rw [firstTold, Option.isSome_map, List.isSome_find?]

/-- What is told last is told by later entries, or by those before where these tell nothing. -/
theorem last_told_append (told others : List (κ × α)) (key : κ) :
    lastTold same (told ++ others) key =
      (lastTold same others key).or (lastTold same told key) := by
  unfold lastTold firstTold
  rw [List.reverse_append, List.find?_append, Option.map_or]

/-- Something is told last about a key exactly if some entry is about it. -/
theorem last_told_is_some (told : List (κ × α)) (key : κ) :
    (lastTold same told key).isSome = told.any fun entry => same entry.1 key := by
  rw [lastTold, first_told_is_some, List.any_reverse]

end Told

namespace Keyed

variable {κ α : Type} {same : κ → κ → Bool} {table after : Keyed κ α}

/-- A collection has under every key what is told about it, and no two of its keys are the same. -/
structure Holds (same : κ → κ → Bool) (table : Keyed κ α) (told : κ → Option (Except Failure α)) :
    Prop where
  apart : table.Apart same
  finds : ∀ key, (table.findBy? same key).map Except.ok = told key

/-- The empty collection holds what nothing is told about. -/
theorem holds_empty : (empty : Keyed κ α).Holds same fun _ => none :=
  ⟨.nil, fun _ => rfl⟩

variable (hsame : Equivalence fun a b => same a b = true)
include hsame

/-- After an insertion, the value is what is told about its key. -/
theorem Holds.insert_by {told : κ → Option (Except Failure α)} (h : table.Holds same told) (key : κ)
    (value : α) : (table.insertBy same key value).Holds same fun other =>
      if same key other then some (.ok value) else told other := by
  refine ⟨h.apart.insert_by key value, fun other => ?_⟩
  rw [find_by_insert_by hsame, ← h.finds other]
  split <;> rfl

/-- A family where the first record of a key stays holds what is told first. -/
theorem Holds.fills {told : List (κ × Except Failure α)}
    (h : table.Holds same (firstTold same told)) {outcome : Option Failure}
    {entry : Option (κ × Except Failure α)}
    (hstep : table.Fills same after outcome entry) :
    after.Holds same
      (firstTold same (told ++ if outcome.isNone then entry.toList else [])) := by
  cases entry with
  | none =>
      obtain rfl : after = table := hstep
      simpa using h
  | some entry =>
      obtain ⟨key, record⟩ := entry
      obtain ⟨rfl, hstays⟩ | ⟨rfl, hnew, value, rfl, rfl⟩ := hstep
      · cases outcome with
        | some failure => simpa using h
        | none =>
            -- The key is known, so that something was told about it before.
            obtain ⟨value, hknown⟩ := Option.isSome_iff_exists.mp (hstays.resolve_left (· rfl))
            refine ⟨h.apart, fun other => ?_⟩
            show _ = firstTold same (told ++ [(key, record)]) other
            rw [first_told_concat, ← h.finds other]
            cases hother : same key other with
            | false => exact Option.or_none.symm
            | true =>
                rw [← find_by_congr hsame hother, hknown]
                rfl
      · have hinsert := h.insert_by hsame key value
        refine ⟨hinsert.apart, fun other => (hinsert.finds other).trans ?_⟩
        show _ = firstTold same (told ++ [(key, .ok value)]) other
        rw [first_told_concat, ← h.finds other]
        cases hother : same key other with
        | false => exact Option.or_none.symm
        | true =>
            rw [← find_by_congr hsame hother, hnew]
            rfl

/-- A family where the last record of a key stays holds what is told last. -/
theorem Holds.overrides {told : List (κ × Except Failure α)}
    (h : table.Holds same (lastTold same told)) {outcome : Option Failure}
    {entry : Option (κ × Except Failure α)} (hstep : table.Overrides same after outcome entry) :
    after.Holds same (lastTold same (told ++ if outcome.isNone then entry.toList else [])) := by
  cases entry with
  | none =>
      obtain rfl : after = table := hstep
      simpa using h
  | some entry =>
      obtain ⟨key, record⟩ := entry
      obtain ⟨rfl, hfails⟩ | ⟨rfl, value, rfl, rfl⟩ := hstep
      · obtain ⟨failure, rfl⟩ := Option.ne_none_iff_exists'.mp hfails
        simpa using h
      · have hinsert := h.insert_by hsame key value
        refine ⟨hinsert.apart, fun other => (hinsert.finds other).trans ?_⟩
        exact (last_told_concat told (key, .ok value) other).symm

/-- A collection that is made of entries finds what they tell last. -/
theorem find_by_overridden (entries : List (κ × α)) (key : κ) :
    (empty.overrideBy same entries).findBy? same key = lastTold same entries key := by
  induction entries using List.reverseRecOn with
  | nil => rfl
  | append_singleton entries entry ih =>
      rw [override_by_append, override_by_singleton, find_by_insert_by hsame, last_told_concat, ih]

/-- Entries that are put in one after the other are what is told last. -/
theorem Holds.override_by {β : Type} {told : List (κ × β)} {read : β → α}
    (h : table.Holds same fun key => (lastTold same told key).map fun value => .ok (read value))
    (entries : List (κ × β)) :
    (table.overrideBy same (entries.map (Prod.map id read))).Holds same fun key =>
      (lastTold same (told ++ entries) key).map fun value => .ok (read value) := by
  induction entries generalizing table told with
  | nil => simpa using h
  | cons entry rest ih =>
      have hinsert := h.insert_by hsame entry.1 (read entry.2)
      rw [← List.singleton_append, ← List.append_assoc]
      refine ih ⟨hinsert.apart, fun other => (hinsert.finds other).trans ?_⟩
      rw [last_told_concat]
      split <;> rfl

end Keyed

namespace Store

variable {settings : Settings} {store : Store} {event : Event} {events history : List Event}

/-! ## Histories -/

/-- The events of a run that do not fail, each in the store that the events before it lead to. -/
def handled (settings : Settings) : Store → List Event → List Event
  | _, [] => []
  | store, event :: rest =>
    let changed := store.apply settings event
    (if changed.2.isNone then [event] else []) ++ handled settings changed.1 rest

/-- One more event is in the history of a run unless it fails. -/
theorem handled_concat (settings : Settings) (store : Store) (events : List Event) (event : Event) :
    handled settings store (events ++ [event]) = handled settings store events ++
      if ((store.absorbAll settings events).apply settings event).2.isNone then [event]
      else [] := by
  induction events generalizing store with
  | nil => simp [handled]
  | cons first rest ih =>
      rw [List.cons_append, handled, handled, ih, absorb_all_cons, ← apply_eq_absorb,
        List.append_assoc]

/-- A history without the events that observe the end of a task attempt again. -/
def firstEnds (history : List Event) : List Event :=
  history.eraseDupsBy (Event.repeats EventContent.taskKey? TaskKey.agrees)

/-- A history without the events that start a query again. -/
def firstStarts (history : List Event) : List Event :=
  history.eraseDupsBy (Event.repeats EventContent.started? (· == ·))

/-- A store is what its history tells, family by family. -/
structure Recorded (store : Store) (history : List Event) : Prop where
  application : store.application = history.findSome? (·.content.application?)
  finish : store.finish = history.findSome? (·.content.finish?)
  version : store.version = (history.filterMap (·.content.version?)).getLast?.getD ""
  executors : store.executors.Holds (· == ·) <|
    firstTold (· == ·) (history.filterMap (·.content.executor?))
  blockManagers : store.blockManagers.Holds (· == ·) <|
    firstTold (· == ·) (history.filterMap (·.content.blockManager?))
  profiles : store.profiles.Holds (· == ·) <|
    lastTold (· == ·) (history.filterMap (·.content.profile?))
  properties : store.properties.Holds (· == ·) fun key =>
    (lastTold (· == ·) (history.flatMap (·.content.properties)) key).map .ok
  jobs : store.jobs.Holds (· == ·) <| firstTold (· == ·) (history.filterMap (·.content.job?))
  jobEnds : store.jobEnds.Holds (· == ·) <|
    firstTold (· == ·) (history.filterMap (·.content.jobEnd?))
  stages : store.stages.Holds StageKey.agrees <|
    firstTold StageKey.agrees (history.filterMap (·.content.stage?))
  completions : store.completions.Holds StageKey.agrees <|
    lastTold StageKey.agrees (history.filterMap (·.content.completion?))
  taskKeys : store.taskKeys = (firstEnds history).filterMap (·.content.taskKey?)
  tasks : store.tasks.map Except.ok = (firstEnds history).filterMap (·.content.task?)
  accumulables : ∃ reported : List (List Accumulable),
    (firstEnds history).filterMap (·.content.reported?) = reported.map Except.ok ∧
      store.accumulables = reported.flatten
  queries : store.queries.Holds (· == ·) <|
    firstTold (· == ·) (history.filterMap (·.content.query?))
  queryEnds : store.queryEnds.Holds (· == ·) <|
    firstTold (· == ·) (history.filterMap (·.content.queryEnd?))
  plans : store.plans.Holds (· == ·) fun id =>
    (lastTold (· == ·) ((firstStarts history).filterMap (·.content.plan?)) id).map (.ok ·.1)
  planTexts : store.planTexts.Holds (· == ·) fun id =>
    (lastTold (· == ·) ((firstStarts history).filterMap (·.content.plan?)) id).map (.ok ·.2)

/-- The empty store is what the empty history tells. -/
theorem recorded_empty : ({} : Store).Recorded [] where
  application := rfl
  finish := rfl
  version := rfl
  executors := Keyed.holds_empty
  blockManagers := Keyed.holds_empty
  profiles := Keyed.holds_empty
  properties := Keyed.holds_empty
  jobs := Keyed.holds_empty
  jobEnds := Keyed.holds_empty
  stages := Keyed.holds_empty
  completions := Keyed.holds_empty
  taskKeys := rfl
  tasks := rfl
  accumulables := ⟨[], rfl, rfl⟩
  queries := Keyed.holds_empty
  queryEnds := Keyed.holds_empty
  plans := Keyed.holds_empty
  planTexts := Keyed.holds_empty

/-! ## One event -/

/-- What a history tells with one more event. -/
theorem filter_map_concat {β : Type} (tell : EventContent → Option β) :
    (history ++ [event]).filterMap (tell ·.content) =
      history.filterMap (tell ·.content) ++ (tell event.content).toList := by
  rw [List.filterMap_append]
  cases htold : tell event.content <;> simp [htold]

/-- What a history tells with one more event, if the event is kept. -/
theorem filter_map_kept {β : Type} (tell : EventContent → Option β) (kept : Bool) :
    (history ++ if kept then [event] else []).filterMap (tell ·.content) =
      history.filterMap (tell ·.content) ++ if kept then (tell event.content).toList else [] := by
  cases kept with
  | false => simp
  | true => exact filter_map_concat tell

section Families

variable {κ α : Type} {same : κ → κ → Bool} {table after : Keyed κ α} {outcome : Option Failure}
  {tell : EventContent → Option (κ × Except Failure α)}

/-- One event keeps a family that holds what its history tells first. -/
theorem holds_first (hsame : Equivalence fun a b => same a b = true)
    (h : table.Holds same (firstTold same (history.filterMap (tell ·.content))))
    (hstep : table.Fills same after outcome (tell event.content)) :
    after.Holds same (firstTold same
      ((history ++ if outcome.isNone then [event] else []).filterMap (tell ·.content))) := by
  rw [filter_map_kept]
  exact h.fills hsame hstep

/-- One event keeps a family that holds what its history tells last. -/
theorem holds_last (hsame : Equivalence fun a b => same a b = true)
    (h : table.Holds same (lastTold same (history.filterMap (tell ·.content))))
    (hstep : table.Overrides same after outcome (tell event.content)) :
    after.Holds same (lastTold same
      ((history ++ if outcome.isNone then [event] else []).filterMap (tell ·.content))) := by
  rw [filter_map_kept]
  exact h.overrides hsame hstep

end Families

/-- One event keeps a fact that its history tells first. -/
theorem first_fact {α : Type} {tell : EventContent → Option α} {kept : Bool}
    (hkept : kept = false → tell event.content = none) :
    (history ++ if kept then [event] else []).findSome? (tell ·.content) =
      (history.findSome? (tell ·.content)).or (tell event.content) := by
  rw [List.findSome?_append]
  cases kept with
  | false => rw [hkept rfl]; rfl
  | true => cases htold : tell event.content <;> simp [htold]

/-- One event keeps a fact that its history tells last. -/
theorem last_fact {α : Type} {tell : EventContent → Option α} {kept : Bool}
    (hkept : kept = false → tell event.content = none) (default : α) :
    ((history ++ if kept then [event] else []).filterMap (tell ·.content)).getLast?.getD default =
      (tell event.content).getD
        ((history.filterMap (tell ·.content)).getLast?.getD default) := by
  rw [filter_map_kept]
  cases kept with
  | false => simp [hkept rfl]
  | true => cases htold : tell event.content <;> simp

/-- One event keeps the properties that its history tells last. -/
theorem holds_properties {properties : Keyed (PropertySource × String) Property} {kept : Bool}
    (h : properties.Holds (· == ·) fun key =>
      (lastTold (· == ·) (history.flatMap (·.content.properties)) key).map .ok)
    (hkept : kept = false → event.content.properties = []) :
    (properties.overrideBy (· == ·) event.content.properties).Holds (· == ·) fun key =>
      (lastTold (· == ·) ((history ++ if kept then [event] else []).flatMap (·.content.properties))
        key).map .ok := by
  cases kept with
  | false =>
      rw [hkept rfl, Keyed.override_by_nil, if_neg Bool.false_ne_true, List.append_nil]
      exact h
  | true =>
      have hput : Keyed.Holds _ (Keyed.overrideBy _ _ (event.content.properties.map id)) _ :=
        h.override_by beq_equivalence event.content.properties
      rw [List.map_id] at hput
      rw [if_pos rfl, List.flatMap_append, List.flatMap_singleton]
      exact hput

/-- One more event that starts a query is left out of the first starts exactly if the query is
known. -/
theorem Recorded.first_starts_concat (h : store.Recorded history) :
    firstStarts (history ++ [event]) =
      if event.content.query?.any fun entry => store.queries.has entry.1 then firstStarts history
      else firstStarts history ++ [event] := by
  suffices hknown : (firstStarts history).any (event.repeats EventContent.started? (· == ·)) =
      event.content.query?.any fun entry => store.queries.has entry.1 by
    rw [← hknown]
    exact erase_dups_by_concat
  rw [firstStarts, any_erase_dups_by (Event.repeats_trans (by simp))]
  cases hstart : event.content.query? with
  | none => simp [Event.repeats, EventContent.started?, hstart]
  | some entry =>
      have hfound := congrArg Option.isSome (h.queries.finds entry.1)
      rw [Option.isSome_map, first_told_is_some, List.any_filterMap] at hfound
      rw [Option.any_some, Keyed.has, Keyed.find?, hfound]
      refine congrArg (List.any history) (funext fun earlier => ?_)
      cases hearlier : earlier.content.query? <;>
        simp [Event.repeats, EventContent.started?, hstart, hearlier, Bool.beq_comm]

/-- One event keeps what the history tells last about plans. -/
theorem Recorded.holds_plans (h : store.Recorded history) {α : Type} {plans : Keyed Int α}
    {read : PlanTree × String → α}
    (hplans : plans.Holds (· == ·) fun id =>
      (lastTold (· == ·) ((firstStarts history).filterMap (·.content.plan?)) id).map
        fun told => .ok (read told))
    {kept : Bool}
    (hkept : kept = false → event.content.query? = none ∧ event.content.plan? = none) :
    (if event.content.query?.any fun entry => store.queries.has entry.1 then plans
      else plans.overrideBy (· == ·)
        (event.content.plan?.map fun entry => (entry.1, read entry.2)).toList).Holds (· == ·)
      fun id =>
        (lastTold (· == ·)
          ((firstStarts (history ++ if kept then [event] else [])).filterMap (·.content.plan?))
          id).map fun told => .ok (read told) := by
  cases kept with
  | false =>
      obtain ⟨hquery, hplan⟩ := hkept rfl
      simpa [hquery, hplan] using hplans
  | true =>
      rw [if_pos rfl, h.first_starts_concat]
      split
      · exact hplans
      · have hentries : (event.content.plan?.map fun entry => (entry.1, read entry.2)).toList =
            event.content.plan?.toList.map (Prod.map id read) := by
          cases event.content.plan? <;> rfl
        rw [hentries, filter_map_concat]
        exact hplans.override_by beq_equivalence _

/-- One more event that ends a task attempt is left out of the first ends exactly if the key of the
attempt is known. -/
theorem Recorded.first_ends_concat (h : store.Recorded history) :
    firstEnds (history ++ [event]) =
      if store.knowsEnd event.content then firstEnds history
      else firstEnds history ++ [event] := by
  suffices hknown : (firstEnds history).any (event.repeats EventContent.taskKey? TaskKey.agrees) =
      store.knowsEnd event.content by
    rw [← hknown]
    exact erase_dups_by_concat
  cases hkey : event.content.taskKey? with
  | none => simp [Event.repeats, knowsEnd, hkey]
  | some key =>
      simp only [knowsEnd, h.taskKeys, hkey, Option.any_some, List.any_filterMap]
      refine congrArg (List.any (firstEnds history)) (funext fun earlier => ?_)
      cases hearlier : earlier.content.taskKey? <;> simp [Event.repeats, hkey, hearlier]

/-- One event keeps what the history tells about tasks and accumulables. -/
theorem Recorded.holds_tasks (h : store.Recorded history) {changed : Changed Store}
    (hstep : store.EntersTasks event.content changed) :
    let ends := firstEnds (history ++ if changed.2.isNone then [event] else [])
    changed.1.taskKeys = ends.filterMap (·.content.taskKey?) ∧
      changed.1.tasks.map Except.ok = ends.filterMap (·.content.task?) ∧
      ∃ reported : List (List Accumulable),
        ends.filterMap (·.content.reported?) = reported.map Except.ok ∧
          changed.1.accumulables = reported.flatten := by
  obtain ⟨hsame, hstays⟩ | ⟨hdone, hnew, hmore⟩ := hstep
  · have hends : firstEnds (history ++ if changed.2.isNone then [event] else []) =
        firstEnds history := by
      obtain hfails | hknown := hstays
      · rw [if_neg (by simpa using hfails), List.append_nil]
      · split
        · rw [h.first_ends_concat, if_pos hknown]
        · rw [List.append_nil]
    simp only [hends, hsame.taskKeys, hsame.tasks, hsame.accumulables]
    exact ⟨h.taskKeys, h.tasks, h.accumulables⟩
  · obtain ⟨before, hbefore, haccumulables⟩ := h.accumulables
    obtain ⟨reported, hreported, hadded⟩ := hmore.accumulables
    simp only [hdone, Option.isNone_none, if_true, h.first_ends_concat, hnew, Bool.false_eq_true,
      if_false, filter_map_concat]
    refine ⟨by rw [hmore.taskKeys, h.taskKeys], by rw [hmore.tasks, h.tasks], before ++ reported,
      by rw [hbefore, hreported, List.map_append], ?_⟩
    rw [hadded, haccumulables, List.flatten_append]

/-- One event keeps a store what its history tells. An event that fails stays out of the history. -/
theorem Recorded.apply (h : store.Recorded history) (settings : Settings) (event : Event) :
    (store.apply settings event).1.Recorded
      (history ++ if (store.apply settings event).2.isNone then [event] else []) := by
  have hfacts (hfails : (store.apply settings event).2.isNone = false) :=
    @facts_of_failed settings store event fun hdone => by simp [hdone] at hfails
  obtain ⟨hkeys, htasks, haccumulables⟩ := h.holds_tasks (@tasks_entered settings store event)
  obtain ⟨hplans, htexts⟩ := @plans_entered settings store event
  exact
    { application := by
        rw [first_fact fun hfails => (hfacts hfails).1, ← h.application]
        exact application_entered
      finish := by
        rw [first_fact fun hfails => (hfacts hfails).2.1, ← h.finish]
        exact finish_entered
      version := by
        rw [last_fact fun hfails => (hfacts hfails).2.2.1, ← h.version]
        exact version_entered
      executors := holds_first beq_equivalence h.executors executors_entered
      blockManagers := holds_first beq_equivalence h.blockManagers block_managers_entered
      profiles := holds_last beq_equivalence h.profiles profiles_entered
      properties := by
        rw [properties_entered]
        exact holds_properties h.properties fun hfails => (hfacts hfails).2.2.2.1
      jobs := holds_first beq_equivalence h.jobs jobs_entered
      jobEnds := holds_first beq_equivalence h.jobEnds job_ends_entered
      stages := holds_first StageKey.agrees_equivalence h.stages stages_entered
      completions := holds_last StageKey.agrees_equivalence h.completions completions_entered
      taskKeys := hkeys
      tasks := htasks
      accumulables := haccumulables
      queries := holds_first beq_equivalence h.queries queries_entered
      queryEnds := holds_first beq_equivalence h.queryEnds query_ends_entered
      plans := by
        rw [hplans]
        exact h.holds_plans h.plans fun hfails =>
          ⟨(hfacts hfails).2.2.2.2.1, (hfacts hfails).2.2.2.2.2⟩
      planTexts := by
        rw [htexts]
        exact h.holds_plans h.planTexts fun hfails =>
          ⟨(hfacts hfails).2.2.2.2.1, (hfacts hfails).2.2.2.2.2⟩ }

/-! ## Runs -/

/-- A run makes of the empty store what its history tells. -/
theorem recorded_absorb_all (settings : Settings) (events : List Event) :
    (({} : Store).absorbAll settings events).Recorded (handled settings {} events) := by
  induction events using List.reverseRecOn with
  | nil => exact recorded_empty
  | append_singleton events event ih =>
      rw [handled_concat, absorb_all_append, absorb_all_cons, absorb_all_nil, ← apply_eq_absorb]
      exact ih.apply settings event

end Store

namespace Intake

/-- A tolerant run that is not interrupted leaves the store that its history tells: in every family
the first, the last, or all of what the events that did not fail say. -/
theorem records_recorded {settings : Settings} (hlenient : settings.strict = false)
    {items : List Payload} (hcomplete : (Intake.records settings {} items).2 = none) :
    (Intake.records settings {} items).1.store.Recorded
      (Store.handled settings {} (items.filterMap readEvent?)) := by
  rw [records_store_eq hlenient hcomplete]
  exact Store.recorded_absorb_all settings _

/-- The start of a job whose query is named by a number. -/
def startedJob (query : Payload) (stages : List Payload) : Payload :=
  .object
    [ ("Event", .text "SparkListenerJobStart"), ("Job ID", .int 1), ("Stage IDs", .list stages),
      ("Properties", .object [("spark.sql.execution.id", query)]) ]

/-- An event about a query with a plan of one node. -/
def plannedQuery (name node : String) : Payload :=
  .object
    [ ("Event", .text ("org.apache.spark.sql.execution.ui." ++ name)), ("executionId", .int 5),
      ("sparkPlanInfo", .object [("nodeName", .text node)]), ("time", .int 10) ]

/-- A log in which a job is started in vain, then twice, a query is started, planned anew and
started again, and a task ends twice. -/
def repeatingLog : List Payload :=
  [ startedJob (.float .nan) [.int 7], startedJob (.int 5) [.int 2, .int 1, .int 2],
    startedJob (.int 6) [.int 9], plannedQuery "SparkListenerSQLExecutionStart" "Project",
    plannedQuery "SparkListenerSQLAdaptiveExecutionUpdate" "Filter",
    plannedQuery "SparkListenerSQLExecutionStart" "Sort", finishedTask (.int 7),
    finishedTask (.int 7) ]

/-- Only the vain start of the job stays out of the history of the log. The job is the one of its
first start in the history, the plan is the one that came while the query ran. -/
theorem records_recorded_repeating :
    let run := Intake.records {} {} repeatingLog
    let history := Store.handled {} {} (repeatingLog.filterMap readEvent?)
    run.2 = none ∧ run.1.store.Recorded history ∧ history.length = 7 ∧
      run.1.store.jobs.values.map (fun job => (job.stages, job.query)) = [([2, 1], some 5)] ∧
      run.1.store.plans.values.map PlanTree.name = ["Filter"] ∧
      run.1.store.tasks.map Task.id = [7] := by
  obtain ⟨hcomplete, hruns⟩ : (Intake.records {} {} repeatingLog).2 = none ∧
      (Store.handled {} {} (repeatingLog.filterMap readEvent?)).length = 7 ∧
      (Intake.records {} {} repeatingLog).1.store.jobs.values.map
          (fun job => (job.stages, job.query)) = [([2, 1], some 5)] ∧
      (Intake.records {} {} repeatingLog).1.store.plans.values.map PlanTree.name = ["Filter"] ∧
      (Intake.records {} {} repeatingLog).1.store.tasks.map Task.id = [7] := by
    decide +kernel
  exact ⟨hcomplete, records_recorded rfl hcomplete, hruns⟩

end Intake

end SparkLog
