import SparkLog.Proofs.Ingestion.Handlers
import SparkLog.Proofs.Ingestion.Overflow
import SparkLog.Proofs.Unheard

/-!
# Accumulables of tasks and stage attempts

An entry of a list of accumulables reports one if it has an identifier and its value is a number or
a numeral that is not too long to be read; any other entry is left out (`accumulables_of_entries`).
Which entries there are does not decide whether the event that carries them is recorded
(`Store.add_task_alike`, `Store.add_completion_alike`), as long as all numbers have an integer part.
A value that has none, which is infinite or no number, keeps the whole event from being recorded,
whether its entry has an identifier or not (`Store.add_task_unbounded`,
`Store.add_completion_unbounded`).
-/

namespace SparkLog

variable {stage attempt task : Payload} {s a : Int} {t : Option Int} {entry : Fields}
  {entries : List Fields}

/-! ## Entries -/

/-- The identifier of an entry is absent, null or an integer, and its name is absent, null or a
text. -/
structure Fields.IsEntry (entry : Fields) : Prop where
  id : entry.find "ID" = .null ∨ ∃ n, entry.find "ID" = .int n
  name : entry.find "Name" = .null ∨ ∃ name, entry.find "Name" = .text name

/-- Why a value has no integer part: it is no number, or infinite. -/
def Payload.unbounded? : Payload → Option Failure
  | .float .nan => some .nanToInteger
  | .float (.infinite _) => some .infinityToInteger
  | _ => none

/-- The integer that a value reports: the integer part of a number, which no truth value is, or the
integer that a text is. A text of more than `Decimal.digitLimit` digits is read as none. -/
def Payload.reported? : Payload → Option Int
  | .int n => some n
  | .float x => x.truncate?
  | .text s => Decimal.integer? (String.ofList (Text.strip Text.isBlank s.toList))
  | _ => none

/-- The accumulable that an entry of a task or stage attempt reports: it has an identifier, and its
value reports an integer. -/
def reportedBy (stage attempt : Int) (task : Option Int) (entry : Fields) : Option Accumulable :=
  match entry.find "ID", (entry.find "Value").reported? with
  | .int accumulator, some value =>
    let name :=
      match entry.find "Name" with
      | .text name => some name
      | _ => none
    some { stage, attempt, task, accumulator, name, value := some value }
  | _, _ => none

/-- The value of an accumulable fails where it has no integer part, and is what it reports
otherwise. -/
theorem accumulator_value_eq (value : Payload) : accumulatorValue value =
    match value.unbounded? with
    | some failure => .error failure
    | none => .ok value.reported? := by
  cases value with
  | float x => cases x <;> rfl
  | _ => rfl

/-- An entry fails where its value has no integer part, whether it has an identifier or not, and
reports its accumulable otherwise. -/
theorem accumulable_of_entry (hentry : entry.IsEntry) (hstage : Schema.int stage = .ok s)
    (hattempt : Schema.int attempt = .ok a) (htask : Schema.optional Schema.int task = .ok t) :
    accumulable? stage attempt task (.object entry) =
      match (entry.find "Value").unbounded? with
      | some failure => .error failure
      | none => .ok (reportedBy s a t entry) := by
  unfold accumulable?
  simp only [Payload.fields, bind, Except.bind]
  rw [accumulator_value_eq]
  cases (entry.find "Value").unbounded? with
  | some failure => rfl
  | none =>
      unfold reportedBy
      obtain hid | ⟨n, hid⟩ := hentry.id
      · rw [hid]
        rfl
      · rw [hid]
        cases (entry.find "Value").reported? with
        | none => rfl
        | some value =>
            simp only [hstage, hattempt, htask]
            obtain hname | ⟨name, hname⟩ := hentry.name
            · rw [hname]
              rfl
            · rw [hname]
              rfl

/-- What fits where null does not fits as an optional value. -/
theorem Schema.optional_of_some {α : Type} {check : Payload → Checked α} {payload : Payload}
    {value : α} (hnull : check .null = .fault) (h : check payload = .ok value) :
    optional check payload = .ok (some value) := by
  unfold optional
  split
  · cases hnull.symm.trans h
  · rw [h]
    rfl

/-! ## Lists of entries -/

/-- The accumulables of a list are those of its entries, one by one. -/
theorem accumulables_list (items : List Payload) : accumulables stage attempt task (.list items) =
    (·.filterMap id) <$> items.mapM (accumulable? stage attempt task) := by
  cases items with
  | nil => rfl
  | cons item rest =>
      have htruthy : (Payload.list (item :: rest)).isTruthy = true := rfl
      unfold accumulables
      rw [if_pos htruthy]
      simp only [Payload.items, bind, Except.bind]
      cases (item :: rest).mapM (accumulable? stage attempt task) <;> rfl

/-- The failure of the first entry whose value has no integer part. -/
def firstUnbounded? (entries : List Fields) : Option Failure :=
  entries.findSome? fun entry => (entry.find "Value").unbounded?

/-- The first of entries comes before the rest. -/
theorem first_unbounded_cons (entry : Fields) (rest : List Fields) :
    firstUnbounded? (entry :: rest) =
      match (entry.find "Value").unbounded? with
      | some failure => some failure
      | none => firstUnbounded? rest := by
  rw [firstUnbounded?, List.findSome?_cons]
  cases (entry.find "Value").unbounded? <;> rfl

section Entries

variable (hentries : ∀ entry ∈ entries, entry.IsEntry) (hstage : Schema.int stage = .ok s)
  (hattempt : Schema.int attempt = .ok a) (htask : Schema.optional Schema.int task = .ok t)
include hentries hstage hattempt htask

/-- Entries that are read one by one stop at the first whose value has no integer part. -/
theorem map_m_entries : (entries.map Payload.object).mapM (accumulable? stage attempt task) =
    match firstUnbounded? entries with
    | some failure => .error failure
    | none => .ok (entries.map (reportedBy s a t)) := by
  induction entries with
  | nil => rfl
  | cons entry rest ih =>
      obtain ⟨hentry, hrest⟩ := List.forall_mem_cons.mp hentries
      rw [List.map_cons, List.mapM_cons, ih hrest, first_unbounded_cons,
        accumulable_of_entry hentry hstage hattempt htask]
      cases (entry.find "Value").unbounded? with
      | some failure => rfl
      | none => cases firstUnbounded? rest <;> rfl

/-- Entries fail as the first of them whose value has no integer part, and report their accumulables
in their order otherwise. -/
theorem accumulables_of_entries :
    accumulables stage attempt task (.list (entries.map .object)) =
      match firstUnbounded? entries with
      | some failure => .error failure
      | none => .ok (entries.filterMap (reportedBy s a t)) := by
  rw [accumulables_list, map_m_entries hentries hstage hattempt htask]
  cases firstUnbounded? entries with
  | some failure => rfl
  | none => exact congrArg Except.ok List.filterMap_map

end Entries

/-- Entries fail in any case where the value of one of them has no integer part. -/
theorem accumulables_unbounded (h : (firstUnbounded? entries).isSome = true) :
    ∃ failure, accumulables stage attempt task (.list (entries.map .object)) = .error failure := by
  rw [accumulables_list]
  cases hread : (entries.map Payload.object).mapM (accumulable? stage attempt task) with
  | error failure => exact ⟨failure, rfl⟩
  | ok read =>
      obtain ⟨failure, hfailure⟩ := Option.isSome_iff_exists.mp h
      obtain ⟨entry, hmem, hunbounded⟩ := List.exists_of_findSome?_eq_some hfailure
      obtain ⟨found, -, hfound⟩ :=
        exists_of_paired (paired_of_map_m hread).flip (List.mem_map_of_mem hmem)
      obtain ⟨fields, hfields, hvalue⟩ := bind_eq_ok_iff.mp hfound
      obtain rfl := Except.ok.inj hfields
      obtain ⟨value, hvalue, -⟩ := bind_eq_ok_iff.mp hvalue
      rw [accumulator_value_eq, hunbounded] at hvalue
      cases hvalue

/-! ## Events -/

/-- The information of a task or a stage attempt with entries as its accumulables. -/
def withEntries (info : Fields) (entries : List Fields) : Fields :=
  info.set "Accumulables" (.list (entries.map .object))

/-- The accumulables of the information are the entries. -/
theorem find_accumulables (info : Fields) (entries : List Fields) :
    (withEntries info entries).find "Accumulables" = .list (entries.map .object) := by
  rw [withEntries, Fields.find, Fields.getD, Fields.get_set_self, Option.getD_some]

/-- Nothing else in the information is changed. -/
theorem get_with_entries_of_ne {info : Fields} {key : String} (h : key ≠ "Accumulables") :
    (withEntries info entries).get? key = info.get? key :=
  Fields.get_set_of_ne h _

/-- The task that an end records does not depend on accumulables. -/
theorem task_of_end_with_entries (stage attempt : Int) (type : String) (reason info : Fields)
    (metrics : Option Fields) :
    taskOfEnd stage attempt type reason (withEntries info entries) metrics =
      taskOfEnd stage attempt type reason info metrics := by
  simp (disch := decide) only [taskOfEnd, endTimes, endFields, launchTime, finishTime, fetchTime,
    endedWell, Fields.find, Fields.getD, get_with_entries_of_ne]

namespace Store

variable {store : Store}

/-- The store without its accumulables. -/
def bare (store : Store) : Store :=
  { store with accumulables := [] }

/-- Two changes of a store fail both, or leave the same apart from accumulables. -/
inductive Alike : Except Failure Store → Except Failure Store → Prop where
  | failed (failure failure' : Failure) : Alike (.error failure) (.error failure')
  | done {after after' : Store} (h : after'.bare = after.bare) : Alike (.ok after) (.ok after')

/-- A change is alike to itself. -/
theorem Alike.refl (outcome : Except Failure Store) : Alike outcome outcome := by
  cases outcome with
  | ok after => exact .done rfl
  | error failure => exact .failed failure failure

/-- Changes with the same first part are alike if the rest is. -/
theorem Alike.bind {α : Type} {outcome : Except Failure α} {next next' : α → Except Failure Store}
    (h : ∀ value, outcome = .ok value → Alike (next value) (next' value)) :
    Alike (outcome >>= next) (outcome >>= next') := by
  cases outcome with
  | ok value => exact h value rfl
  | error failure => exact .failed failure failure

/-- A completion that is recorded is of a stage attempt whose identifiers are integers. -/
theorem identifies_of_completion {info : Fields} {after : Store}
    (h : store.addCompletion info = .ok after) :
    ∃ key id attempt, Identifies info key id attempt := by
  simp only [addCompletion, bind_eq_ok_iff, stage_key_eq_ok_iff, pure_eq_ok_iff,
    Schema.accept_eq_ok_iff, Checked.seq_eq_ok_iff, Checked.map_eq_ok_iff] at h
  obtain ⟨⟨stage, attempt⟩, hidentifiers, key, ⟨rfl, rfl⟩, _, -, _, ⟨_, ⟨_, ⟨_, ⟨_,
    ⟨id, hid, rfl⟩, attempt, hattempt, rfl⟩, _, -, rfl⟩, _, -, rfl⟩, _, -, rfl⟩, rfl⟩ := h
  exact ⟨key, id, attempt, hidentifiers, hid, hattempt⟩

section Read

variable {info : Fields} {entries entries' : List Fields}
  (h : ∀ entry ∈ entries, entry.IsEntry) (h' : ∀ entry ∈ entries', entry.IsEntry)
  (hread : firstUnbounded? entries = none) (hread' : firstUnbounded? entries' = none)
include h h' hread hread'

/-- The end of a task is recorded alike, whatever its accumulables are that can be read. -/
theorem add_task_alike (stage attempt : Int) (type : String) (reason : Fields)
    (metrics : Option Fields) :
    Alike (store.addTask stage attempt type reason (withEntries info entries) metrics)
      (store.addTask stage attempt type reason (withEntries info entries') metrics) := by
  simp (disch := decide) only [addTask, taskIdentifier, Fields.getD, get_with_entries_of_ne,
    task_of_end_with_entries, find_accumulables]
  refine .bind fun id hid => .bind fun key _ => ?_
  split
  · exact .refl _
  · refine .bind fun task htask => ?_
    have hidentifier : Schema.optional Schema.int id = .ok (some task.id) := by
      have hint := (task_of_end_identifiers htask).2.2.1
      rw [find_of_task_identifier hid] at hint
      exact Schema.optional_of_some rfl hint
    rw [accumulables_of_entries h rfl rfl hidentifier, hread,
      accumulables_of_entries h' rfl rfl hidentifier, hread']
    exact .done rfl

/-- The completion of a stage attempt is recorded alike, whatever its accumulables are that can be
read. -/
theorem add_completion_alike :
    Alike (store.addCompletion (withEntries info entries))
      (store.addCompletion (withEntries info entries')) := by
  have hidentifiers (entries : List Fields) :
      stageIdentifiers (withEntries info entries) = stageIdentifiers info := by
    simp (disch := decide) only [stageIdentifiers, Fields.getD, get_with_entries_of_ne]
  by_cases hfit : ∃ stage attempt s a, stageIdentifiers info = .ok (stage, attempt) ∧
      Schema.int stage = .ok s ∧ Schema.int attempt = .ok a
  · obtain ⟨stage, attempt, s, a, hstage, hs, ha⟩ := hfit
    simp (disch := decide) only [addCompletion, hidentifiers, hstage, find_accumulables]
    refine .bind fun identifiers hsame => .bind fun key _ => ?_
    obtain rfl := Except.ok.inj hsame
    rw [accumulables_of_entries h hs ha rfl, hread, accumulables_of_entries h' hs ha rfl, hread']
    simp (disch := decide) only [Fields.find, Fields.getD, get_with_entries_of_ne]
    change Alike (Schema.accept "StageCompletedRecord" _ >>= _)
      (Schema.accept "StageCompletedRecord" _ >>= _)
    exact .bind fun record _ => .done rfl
  · -- A completion that is recorded has identifiers that are integers.
    have hfails (entries : List Fields) :
        ∃ failure, store.addCompletion (withEntries info entries) = .error failure := by
      cases hdone : store.addCompletion (withEntries info entries) with
      | error failure => exact ⟨failure, rfl⟩
      | ok after =>
          obtain ⟨key, id, attempt, hkey, hs, ha⟩ := identifies_of_completion hdone
          rw [hidentifiers] at hkey
          exact absurd ⟨_, _, _, _, hkey, hs, ha⟩ hfit
    obtain ⟨failure, hfailure⟩ := hfails entries
    obtain ⟨failure', hfailure'⟩ := hfails entries'
    rw [hfailure, hfailure']
    exact .failed failure failure'

end Read

/-- A change with a first part leaves a store alone if the rest does. -/
theorem stays_bind {α : Type} {outcome : Except Failure α} {next : α → Except Failure Store}
    (h : ∀ value, (Changed.ofResult store (next value)).1 = store) :
    (Changed.ofResult store (outcome >>= next)).1 = store := by
  cases outcome with
  | ok value => exact h value
  | error failure => rfl

section Unbounded

variable {info : Fields} {entries : List Fields}
  (hunbounded : (firstUnbounded? entries).isSome = true)
include hunbounded

/-- The end of a task is not recorded with a value that has no integer part. -/
theorem add_task_unbounded (stage attempt : Int) (type : String) (reason : Fields)
    (metrics : Option Fields) :
    (Changed.ofResult store
      (store.addTask stage attempt type reason (withEntries info entries) metrics)).1 = store := by
  rw [addTask]
  refine stays_bind fun id => stays_bind fun key => ?_
  split
  · rfl
  · refine stays_bind fun task => ?_
    obtain ⟨failure, hfailure⟩ :=
      @accumulables_unbounded (.int stage) (.int attempt) id _ hunbounded
    dsimp only
    rw [find_accumulables, hfailure]
    rfl

/-- The completion of a stage attempt is not recorded with a value that has no integer part. -/
theorem add_completion_unbounded :
    (Changed.ofResult store (store.addCompletion (withEntries info entries))).1 = store := by
  rw [addCompletion]
  refine stays_bind fun identifiers => stays_bind fun key => ?_
  obtain ⟨failure, hfailure⟩ := accumulables_unbounded hunbounded
  rw [find_accumulables, hfailure]
  rfl

end Unbounded

end Store

/-- An event carries accumulables in its information: it is the end of a task or the completion of a
stage attempt. -/
inductive CarriesAccumulables : (Fields → EventContent) → Prop where
  | taskEnd (stage attempt : Int) (type : String) (reason : Fields)
    (metrics executorMetrics : Option Fields) :
    CarriesAccumulables fun info =>
      .taskEnd stage attempt type reason info metrics executorMetrics
  | stageCompleted : CarriesAccumulables .stageCompleted

/-- Two stores are the same apart from accumulables, and both were changed to the end, or none. -/
def Changed.SameApart (changed changed' : Changed Store) : Prop :=
  changed'.1.bare = changed.1.bare ∧ changed'.2.isNone = changed.2.isNone

/-- Changes that are alike leave the same apart from accumulables. -/
theorem Store.Alike.same_apart {store : Store} {outcome outcome' : Except Failure Store}
    (h : Alike outcome outcome') :
    (Changed.ofResult store outcome).SameApart (Changed.ofResult store outcome') := by
  cases h with
  | failed => exact ⟨rfl, rfl⟩
  | done hbare => exact ⟨hbare, rfl⟩

/-- As long as no value is infinite or no number, every entry that has an identifier and a number or
a numeral that is read is reported, in the order of entries, all others are left out, and the event
that carries them is recorded as with any other such entries. A value that is infinite or no number,
on an entry with an identifier or without, fails instead, and the event leaves the store alone. -/
theorem accumulables_told {entries : List Fields} (hentries : ∀ entry ∈ entries, entry.IsEntry) :
    (∀ (stage attempt task : Payload) (s a : Int) (t : Option Int), Schema.int stage = .ok s →
      Schema.int attempt = .ok a → Schema.optional Schema.int task = .ok t →
        accumulables stage attempt task (.list (entries.map .object)) =
          match firstUnbounded? entries with
          | some failure => .error failure
          | none => .ok (entries.filterMap (reportedBy s a t))) ∧
    ∀ (settings : Settings) (store : Store) (info : Fields) (make : Fields → EventContent),
      CarriesAccumulables make → ∀ event : Event, event.content = make (withEntries info entries) →
        ((firstUnbounded? entries).isSome = true → (store.apply settings event).1 = store) ∧
        (firstUnbounded? entries = none →
          ∀ others : List Fields, (∀ entry ∈ others, entry.IsEntry) →
            firstUnbounded? others = none →
              ∀ other : Event, other.content = make (withEntries info others) →
                (store.apply settings event).SameApart (store.apply settings other)) := by
  refine ⟨fun stage attempt task s a t => accumulables_of_entries hentries, ?_⟩
  intro settings store info make hmake event hevent
  refine ⟨fun hunbounded => ?_, fun hread others hothers hread' other hother => ?_⟩
  · cases hmake with
    | taskEnd =>
        rw [Store.apply, hevent]
        exact Store.add_task_unbounded hunbounded _ _ _ _ _
    | stageCompleted =>
        rw [Store.apply, hevent]
        exact Store.add_completion_unbounded hunbounded
  · cases hmake with
    | taskEnd =>
        rw [Store.apply, Store.apply, hevent, hother]
        exact (Store.add_task_alike hentries hothers hread hread' _ _ _ _ _).same_apart
    | stageCompleted =>
        rw [Store.apply, Store.apply, hevent, hother]
        exact (Store.add_completion_alike hentries hothers hread hread').same_apart

/-- Entries of all kinds: a numeral, a number without identifier, a truth value, a number with a
fraction, nothing. -/
def mixedEntries : List Fields :=
  [ [("ID", .int 7), ("Name", .text "rows"), ("Value", .text " 12 ")],
    [("ID", .null), ("Value", .int 3)],
    [("ID", .int 8), ("Name", .null), ("Value", .bool true)],
    [("ID", .int 9), ("Value", .float (Binary64.ofRatio 5 2))], [] ]

/-- The numeral and the number with a fraction are reported. -/
theorem accumulables_told_mixed : (∀ entry ∈ mixedEntries, entry.IsEntry) ∧
    accumulables (.int 1) (.int 0) (.int 5) (.list (mixedEntries.map .object)) =
      .ok
        [ { stage := 1, attempt := 0, task := some 5, accumulator := 7, name := some "rows"
            value := some 12 },
          { stage := 1, attempt := 0, task := some 5, accumulator := 9, name := none
            value := some 2 } ] := by
  have hentries : ∀ entry ∈ mixedEntries, entry.IsEntry := by
    simp only [mixedEntries, List.mem_cons, List.not_mem_nil, or_false]
    rintro entry (rfl | rfl | rfl | rfl | rfl)
    · exact ⟨.inr ⟨7, rfl⟩, .inr ⟨"rows", rfl⟩⟩
    · exact ⟨.inl rfl, .inl rfl⟩
    · exact ⟨.inr ⟨8, rfl⟩, .inl rfl⟩
    · exact ⟨.inr ⟨9, rfl⟩, .inl rfl⟩
    · exact ⟨.inl rfl, .inl rfl⟩
  refine ⟨hentries, ?_⟩
  rw [(accumulables_told hentries).1 (.int 1) (.int 0) (.int 5) 1 0 (some 5) rfl rfl rfl]
  decide +kernel

/-- An entry without an identifier. -/
def namelessEntry (value : Payload) : Fields :=
  [("Value", value)]

/-- The end of a task whose information has the entry. -/
def taskReporting (value : Payload) : Payload :=
  .object
    [ ("Event", .text "SparkListenerTaskEnd"), ("Stage ID", .int 1), ("Stage Attempt ID", .int 0),
      ("Task End Reason", .object []),
      ("Task Info", .object (withEntries [("Task ID", .int 7)] [namelessEntry value])) ]

/-- The entry reports nothing, but the task is not recorded where its value is infinite or no
number. -/
theorem accumulables_unread :
    (∀ value ∈ [Payload.float .nan, .float (.infinite false)], (namelessEntry value).IsEntry ∧
      (namelessEntry value).find "ID" = .null ∧
      accumulables (.int 1) (.int 0) (.int 7) (.list [.object (namelessEntry value)]) ≠ .ok [] ∧
      (({} : Intake).record {} (taskReporting value)).1.store.tasks = []) ∧
    (({} : Intake).record {} (taskReporting (.int 5))).1.store.tasks.map Task.id = [7] := by
  refine ⟨?_, by decide +kernel⟩
  simp only [List.mem_cons, List.not_mem_nil, or_false]
  rintro value (rfl | rfl)
  · exact ⟨⟨.inl rfl, .inl rfl⟩, rfl, by decide +kernel, by decide +kernel⟩
  · exact ⟨⟨.inl rfl, .inl rfl⟩, rfl, by decide +kernel, by decide +kernel⟩

end SparkLog

