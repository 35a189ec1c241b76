import Mathlib.Data.List.Forall2
import SparkLog.Proofs.Ingestion.Additions

/-!
# Identifiers of stage attempts and tasks

Stage attempts and tasks are looked up by identifiers as the log writes them, while their records
hold integers. Both tell the same things apart unless an identifier is written as a text, which is
read as an integer but is not the same value. `records_identifiers_iff` says exactly when the keys
of a store agree with its records, and when no two records have the same identifiers.
-/

namespace SparkLog

/-! ## Spellings of an integer -/

namespace Scalar

variable {s t : Scalar} {m n : Int}

/-- The scalar is read as an integer in a field of a record. -/
def Reads (s : Scalar) (n : Int) : Prop :=
  Schema.int s.toPayload = .ok n

/-- The scalar is a text. -/
def IsText (s : Scalar) : Prop :=
  ∃ text, s = .text text

/-- A scalar is read as one integer only. -/
theorem Reads.unique (hm : s.Reads m) (hn : s.Reads n) : m = n :=
  Checked.ok.inj (hm.symm.trans hn)

/-- What is read as an integer and is no text is spelled canonically as that integer. -/
theorem Reads.canonical_eq (h : s.Reads n) (htext : ¬ s.IsText) : s.canonical = .int n := by
  cases s with
  | null => cases h
  | bool b => exact congrArg Scalar.int (Checked.ok.inj h)
  | int m => exact congrArg Scalar.int (Checked.ok.inj h)
  | text text => exact absurd ⟨text, rfl⟩ htext
  | float x => simp only [canonical, Schema.to_int_of_int_float h]

/-- Only a text is spelled canonically as a text. -/
theorem canonical_eq_text_iff {text : String} : s.canonical = .text text ↔ s = .text text := by
  cases s with
  | float x =>
      simp only [canonical]
      split <;> simp
  | _ => simp [canonical]

/-- A scalar that is read as an integer agrees with it exactly if the scalar is no text. -/
theorem Reads.agrees_int_iff (h : s.Reads n) : s.agrees (.int n) = true ↔ ¬ s.IsText := by
  simp only [agrees, decide_eq_true_eq]
  constructor
  · rintro he ⟨text, rfl⟩
    simp [canonical] at he
  · exact h.canonical_eq

/-- Scalars that agree are read as the same integer. -/
theorem Reads.eq_of_agrees (hs : s.Reads m) (ht : t.Reads n) (h : s.agrees t = true) : m = n := by
  simp only [agrees, decide_eq_true_eq] at h
  -- A text agrees with the same text only; without a text both are spelled as their integer.
  by_cases htext : s.IsText
  · obtain ⟨text, rfl⟩ := htext
    obtain rfl := canonical_eq_text_iff.mp h.symm
    exact hs.unique ht
  · have htext' : ¬ t.IsText := by
      rintro ⟨text, rfl⟩
      exact htext ⟨text, canonical_eq_text_iff.mp h⟩
    rw [hs.canonical_eq htext, ht.canonical_eq htext'] at h
    exact Scalar.int.inj h

/-- Scalars that are read as the same integer agree if none is a text. -/
theorem Reads.agrees (hs : s.Reads n) (ht : t.Reads n) (hstext : ¬ s.IsText)
    (httext : ¬ t.IsText) : s.agrees t = true := by
  simp [Scalar.agrees, hs.canonical_eq hstext, ht.canonical_eq httext]

end Scalar

/-! ## Keys -/

namespace StageKey

variable {a b : StageKey} {ids other : Int × Int}

/-- The identifiers of the key are read as integers. -/
def Reads (key : StageKey) (ids : Int × Int) : Prop :=
  key.stage.Reads ids.1 ∧ key.attempt.Reads ids.2

/-- An identifier of the key is a text. -/
def HoldsText (key : StageKey) : Prop :=
  key.stage.IsText ∨ key.attempt.IsText

/-- A key agrees with the integers that it is read as exactly if it holds no text. -/
theorem Reads.agrees_of_ints_iff (h : a.Reads ids) :
    a.agrees (.ofInts ids.1 ids.2) = true ↔ ¬ a.HoldsText := by
  simp only [StageKey.agrees, ofInts, Bool.and_eq_true, h.1.agrees_int_iff, h.2.agrees_int_iff,
    HoldsText, not_or]

/-- A key is read in one way only. -/
theorem Reads.unique (h : a.Reads ids) (h' : a.Reads other) : ids = other :=
  Prod.ext (h.1.unique h'.1) (h.2.unique h'.2)

/-- Keys that agree are read as the same integers. -/
theorem Reads.eq_of_agrees (ha : a.Reads ids) (hb : b.Reads other) (h : a.agrees b = true) :
    ids = other := by
  obtain ⟨hstage, hattempt⟩ := Bool.and_eq_true_iff.mp h
  exact Prod.ext (ha.1.eq_of_agrees hb.1 hstage) (ha.2.eq_of_agrees hb.2 hattempt)

/-- Keys without a text that are read as the same integers agree. -/
theorem Reads.agrees (ha : a.Reads ids) (hb : b.Reads ids) (hatext : ¬ a.HoldsText)
    (hbtext : ¬ b.HoldsText) : a.agrees b = true := by
  simp only [HoldsText, not_or] at hatext hbtext
  exact Bool.and_eq_true_iff.mpr
    ⟨ha.1.agrees hb.1 hatext.1 hbtext.1, ha.2.agrees hb.2 hatext.2 hbtext.2⟩

/-- Keys of stage attempts agree by their canonical spellings. -/
theorem agrees_equivalence : Equivalence fun a b : StageKey => a.agrees b = true where
  refl := by simp [StageKey.agrees, Scalar.agrees]
  symm := by
    intro a b h
    simp only [StageKey.agrees, Scalar.agrees, Bool.and_eq_true, decide_eq_true_eq] at h ⊢
    exact ⟨h.1.symm, h.2.symm⟩
  trans := by
    intro a b c h h'
    simp only [StageKey.agrees, Scalar.agrees, Bool.and_eq_true, decide_eq_true_eq] at h h' ⊢
    exact ⟨h.1.trans h'.1, h.2.trans h'.2⟩

end StageKey

/-- The identifiers of a task attempt: stage, stage attempt, task and attempt. -/
def Task.identifiers (task : Task) : Int × Int × Int × Int :=
  (task.stage, task.stageAttempt, task.id, task.attempt)

namespace TaskKey

variable {a b : TaskKey} {ids : Int × Int × Int × Int}

/-- The identifiers of the key are read as integers. -/
def Reads (key : TaskKey) (ids : Int × Int × Int × Int) : Prop :=
  ids.1 = key.stage ∧ ids.2.1 = key.stageAttempt ∧ key.task.Reads ids.2.2.1 ∧
    key.attempt.Reads ids.2.2.2

/-- An identifier of the key is a text. -/
def HoldsText (key : TaskKey) : Prop :=
  key.task.IsText ∨ key.attempt.IsText

/-- Keys without a text that are read as the same integers agree. -/
theorem Reads.agrees (ha : a.Reads ids) (hb : b.Reads ids) (hatext : ¬ a.HoldsText)
    (hbtext : ¬ b.HoldsText) : a.agrees b = true := by
  obtain ⟨hastage, haattempt, ha, ha'⟩ := ha
  obtain ⟨hbstage, hbattempt, hb, hb'⟩ := hb
  simp only [HoldsText, not_or] at hatext hbtext
  simp [TaskKey.agrees, ← hastage, ← hbstage, ← haattempt, ← hbattempt,
    ha.agrees hb hatext.1 hbtext.1, ha'.agrees hb' hatext.2 hbtext.2]

/-- Agreement of keys is symmetric. -/
theorem agrees_comm (a b : TaskKey) : a.agrees b = b.agrees a := by
  simp [TaskKey.agrees, Scalar.agrees, eq_comm, Bool.beq_comm]

/-- A key is read in one way only. -/
theorem Reads.unique {other : Int × Int × Int × Int} (h : a.Reads ids) (h' : a.Reads other) :
    ids = other := by
  obtain ⟨hstage, hstageAttempt, htask, hattempt⟩ := h
  obtain ⟨hstage', hstageAttempt', htask', hattempt'⟩ := h'
  exact Prod.ext (hstage.trans hstage'.symm) <|
    Prod.ext (hstageAttempt.trans hstageAttempt'.symm) <|
      Prod.ext (htask.unique htask') (hattempt.unique hattempt')

/-- Keys that agree are read as the same integers. -/
theorem Reads.eq_of_agrees {other : Int × Int × Int × Int} (ha : a.Reads ids) (hb : b.Reads other)
    (h : a.agrees b = true) : ids = other := by
  obtain ⟨hastage, haattempt, ha, ha'⟩ := ha
  obtain ⟨hbstage, hbattempt, hb, hb'⟩ := hb
  simp only [TaskKey.agrees, Bool.and_eq_true, beq_iff_eq] at h
  obtain ⟨⟨⟨hstage, hstageAttempt⟩, htask⟩, hattempt⟩ := h
  exact Prod.ext (by rw [hastage, hbstage, hstage]) <|
    Prod.ext (by rw [haattempt, hbattempt, hstageAttempt]) <|
      Prod.ext (ha.eq_of_agrees hb htask) (ha'.eq_of_agrees hb' hattempt)

end TaskKey

/-! ## Identified stores -/

/-- Every entry is under a key that is read as the identifiers of its record, and no two keys
agree. -/
structure Keyed.Identified {α : Type} (table : Keyed StageKey α) (ids : α → Int × Int) : Prop where
  reads : ∀ entry ∈ table.entries, entry.1.Reads (ids entry.2)
  apart : table.Apart StageKey.agrees

/-- A record that is inserted under a key that is read as its identifiers keeps a table
identified. -/
theorem Keyed.Identified.insert_by {α : Type} {table : Keyed StageKey α} {ids : α → Int × Int}
    (h : table.Identified ids) {key : StageKey} {value : α} (hkey : key.Reads (ids value)) :
    (table.insertBy StageKey.agrees key value).Identified ids := by
  refine ⟨fun entry hmem => ?_, h.apart.insert_by key value⟩
  obtain hold | rfl | ⟨old, hold, hsame, rfl⟩ := Keyed.mem_insert_by hmem
  · exact h.reads entry hold
  · exact hkey
  · -- The old key stays, and is read as the identifiers of the new record.
    have hids : ids old.2 = ids value := (h.reads old hold).eq_of_agrees hkey hsame
    rw [← hids]
    exact h.reads old hold

section Entries

variable {α : Type} {table : Keyed StageKey α} {ids : α → Int × Int}
  {entries : List (StageKey × α)} (h : table.Identified ids)
  (hentries : ∀ entry ∈ entries, entry.1.Reads (ids entry.2))
include h hentries

/-- Records that are put in under keys that are read as their identifiers keep a table identified.
-/
theorem Keyed.Identified.fill_by : (table.fillBy StageKey.agrees entries).Identified ids := by
  induction entries generalizing table with
  | nil => exact h
  | cons entry rest ih =>
      obtain ⟨hentry, hrest⟩ := List.forall_mem_cons.mp hentries
      rw [fillBy, List.foldl_cons]
      split
      · exact ih h hrest
      · exact ih (h.insert_by hentry) hrest

/-- Records that replace others under keys that are read as their identifiers keep a table
identified. -/
theorem Keyed.Identified.override_by :
    (table.overrideBy StageKey.agrees entries).Identified ids := by
  induction entries generalizing table with
  | nil => exact h
  | cons entry rest ih =>
      obtain ⟨hentry, hrest⟩ := List.forall_mem_cons.mp hentries
      exact ih (h.insert_by hentry) hrest

end Entries

namespace Store

/-- Stage attempts and completions are under keys that are read as their identifiers, tasks stand
in the order of their keys, and no two keys of a family agree. -/
structure Identified (store : Store) : Prop where
  stages : store.stages.Identified fun stage => (stage.id, stage.attempt)
  completions : store.completions.Identified fun completion => (completion.id, completion.attempt)
  tasks : List.Forall₂ TaskKey.Reads store.taskKeys (store.tasks.map Task.identifiers)
  tasksApart : store.taskKeys.Pairwise fun a b => a.agrees b = false

variable {settings : Settings} {store : Store} {event : Event}

/-- The empty store is identified. -/
theorem identified_empty : ({} : Store).Identified where
  stages := ⟨by simp [Keyed.empty], .nil⟩
  completions := ⟨by simp [Keyed.empty], .nil⟩
  tasks := .nil
  tasksApart := .nil

/-- The key of a stage attempt is read as its identifiers. -/
theorem Identifies.reads {info : Fields} {key : StageKey} {id attempt : Int}
    (h : Identifies info key id attempt) : key.Reads (id, attempt) :=
  ⟨h.2.1, h.2.2⟩

/-- The key of a task attempt is read as its identifiers. -/
theorem IdentifiesTask.reads {stage stageAttempt : Int} {info : Fields} {key : TaskKey}
    {task : Task} (h : IdentifiesTask stage stageAttempt info key task) :
    key.Reads task.identifiers := by
  obtain ⟨-, -, hstage, hstageAttempt, htask, htaskAttempt, hid, hattempt⟩ := h
  exact ⟨htask.trans hstage.symm, htaskAttempt.trans hstageAttempt.symm, hid, hattempt⟩

/-- What an event adds is identified. -/
theorem Adds.identified {content : EventContent} {added : Store}
    (h : Adds settings event content added) : added.Identified := by
  cases h with
  | stage hfound =>
      exact { identified_empty with
        stages := identified_empty.stages.fill_by fun entry hmem =>
          (hfound entry (Option.mem_toList.mp hmem)).reads }
  | completion hfound =>
      exact { identified_empty with
        completions := identified_empty.completions.override_by fun entry hmem =>
          (hfound entry (Option.mem_toList.mp hmem)).reads }
  | @task _ _ _ _ _ _ _ found hfound =>
      cases found with
      | none => exact identified_empty
      | some entry =>
          exact { identified_empty with
            tasks := .cons (hfound entry rfl).reads .nil
            tasksApart := List.pairwise_singleton _ _ }
  | _ => exact { identified_empty with }

/-- Every event keeps a store identified. -/
theorem apply_identified (settings : Settings) (store : Store) (event : Event)
    (h : store.Identified) : (store.apply settings event).1.Identified := by
  have hadded := (alone_adds settings event).identified
  rw [apply_eq_absorb]
  unfold absorb
  dsimp only
  cases hknown : store.knowsTask (alone settings event) with
  | true =>
      exact
        { stages := h.stages.fill_by hadded.stages.reads
          completions := h.completions.override_by hadded.completions.reads
          tasks := h.tasks
          tasksApart := h.tasksApart }
  | false =>
      refine
        { stages := h.stages.fill_by hadded.stages.reads
          completions := h.completions.override_by hadded.completions.reads
          tasks := ?_
          tasksApart := List.pairwise_append.mpr
            ⟨h.tasksApart, hadded.tasksApart, fun a ha b hb => ?_⟩ }
      · rw [if_neg Bool.false_ne_true, if_neg Bool.false_ne_true, List.map_append]
        exact List.rel_append h.tasks hadded.tasks
      · have hnew := List.any_eq_false.mp hknown b hb
        rw [TaskKey.agrees_comm]
        simpa using List.any_eq_false.mp (Bool.eq_false_iff.mpr hnew) a ha

end Store

/-! ## Unique identifiers -/

/-- Things under keys that do not agree have different identifiers exactly if no two keys, one of
which holds a text, are read as the same identifiers. -/
theorem nodup_iff_of_reads {κ ι : Type} (reads : κ → ι → Prop) (same : κ → κ → Bool)
    (holdsText : κ → Prop) (hunique : ∀ {a i j}, reads a i → reads a j → i = j)
    (hagrees : ∀ {a b i}, reads a i → reads b i → ¬ holdsText a → ¬ holdsText b →
      same a b = true)
    {entries : List (κ × ι)} (hreads : ∀ entry ∈ entries, reads entry.1 entry.2)
    (hapart : (entries.map Prod.fst).Pairwise fun a b => same a b = false) :
    (entries.map Prod.snd).Nodup ↔
      (entries.map Prod.fst).Pairwise fun a b =>
        holdsText a ∨ holdsText b → ¬ ∃ ids, reads a ids ∧ reads b ids := by
  rw [List.Nodup, List.pairwise_map, List.pairwise_map]
  rw [List.pairwise_map] at hapart
  constructor
  · intro hnodup
    refine hnodup.imp_of_mem fun {a b} ha hb hne _ => ?_
    rintro ⟨ids, hida, hidb⟩
    exact hne ((hunique (hreads a ha) hida).trans (hunique hidb (hreads b hb)))
  · intro htext
    refine (hapart.and htext).imp_of_mem fun {a b} ha hb ⟨hdiffer, htext⟩ he => ?_
    have hidb := hreads b hb
    rw [← he] at hidb
    -- Without a text, keys that are read alike would agree.
    by_cases h : holdsText a.1 ∨ holdsText b.1
    · exact htext h ⟨a.2, hreads a ha, hidb⟩
    · obtain ⟨hatext, hbtext⟩ := not_or.mp h
      rw [hagrees (hreads a ha) hidb hatext hbtext] at hdiffer
      cases hdiffer

/-- The keys of an identified table agree with its records exactly if none holds a text. -/
theorem Keyed.Identified.agrees_iff {α : Type} {table : Keyed StageKey α} {ids : α → Int × Int}
    (h : table.Identified ids) :
    (∀ entry ∈ table.entries,
      entry.1.agrees (.ofInts (ids entry.2).1 (ids entry.2).2) = true) ↔
      ∀ key ∈ table.keys, ¬ key.HoldsText := by
  simp only [Keyed.keys, List.forall_mem_map]
  exact forall₂_congr fun entry hmem => (h.reads entry hmem).agrees_of_ints_iff

/-- The records of an identified table have different identifiers exactly if no two of its keys,
one of which holds a text, are read as the same identifiers. -/
theorem Keyed.Identified.nodup_iff {α : Type} {table : Keyed StageKey α} {ids : α → Int × Int}
    (h : table.Identified ids) :
    (table.values.map ids).Nodup ↔
      table.keys.Pairwise fun a b =>
        a.HoldsText ∨ b.HoldsText → ¬ ∃ ids, a.Reads ids ∧ b.Reads ids := by
  have hreads : ∀ entry ∈ table.entries.map fun entry => (entry.1, ids entry.2),
      entry.1.Reads entry.2 := by
    intro entry hmem
    obtain ⟨old, hold, rfl⟩ := List.mem_map.mp hmem
    exact h.reads old hold
  have hkeys : (table.entries.map fun entry => (entry.1, ids entry.2)).map Prod.fst = table.keys :=
    List.map_map
  have hids : (table.entries.map fun entry => (entry.1, ids entry.2)).map Prod.snd =
      table.values.map ids := by
    simp only [Keyed.values, List.map_map, Function.comp_def]
  have hiff := nodup_iff_of_reads StageKey.Reads StageKey.agrees StageKey.HoldsText
    StageKey.Reads.unique StageKey.Reads.agrees hreads (by rw [hkeys]; exact h.apart)
  rwa [hkeys, hids] at hiff

/-- The tasks of an identified store have different identifiers exactly if no two of its keys, one
of which holds a text, are read as the same identifiers. -/
theorem Store.Identified.tasks_nodup_iff {store : Store} (h : store.Identified) :
    (store.tasks.map Task.identifiers).Nodup ↔
      store.taskKeys.Pairwise fun a b =>
        a.HoldsText ∨ b.HoldsText → ¬ ∃ ids, a.Reads ids ∧ b.Reads ids := by
  have hlength := h.tasks.length_eq
  have hkeys : (store.taskKeys.zip (store.tasks.map Task.identifiers)).map Prod.fst =
      store.taskKeys :=
    List.map_fst_zip (Nat.le_of_eq hlength)
  have hids : (store.taskKeys.zip (store.tasks.map Task.identifiers)).map Prod.snd =
      store.tasks.map Task.identifiers :=
    List.map_snd_zip (Nat.le_of_eq hlength.symm)
  have hreads : ∀ entry ∈ store.taskKeys.zip (store.tasks.map Task.identifiers),
      entry.1.Reads entry.2 :=
    fun _ => List.forall₂_zip h.tasks
  have hiff := nodup_iff_of_reads TaskKey.Reads TaskKey.agrees TaskKey.HoldsText
    TaskKey.Reads.unique TaskKey.Reads.agrees hreads (by rw [hkeys]; exact h.tasksApart)
  rwa [hkeys, hids] at hiff

namespace Intake

/-- After any run, task attempts have different identifiers, keys of stage attempts and completions
agree with the identifiers of their records, and stage attempts have different identifiers, each
exactly as far as no text that stands for an integer gets in the way. -/
theorem records_identifiers_iff (settings : Settings) (items : List Payload) :
    let store := (Intake.records settings {} items).1.store
    ((store.tasks.map Task.identifiers).Nodup ↔
      store.taskKeys.Pairwise fun a b =>
        a.HoldsText ∨ b.HoldsText → ¬ ∃ ids, a.Reads ids ∧ b.Reads ids) ∧
    ((∀ entry ∈ store.stages.entries,
        entry.1.agrees (.ofInts entry.2.id entry.2.attempt) = true) ↔
      ∀ key ∈ store.stages.keys, ¬ key.HoldsText) ∧
    ((∀ entry ∈ store.completions.entries,
        entry.1.agrees (.ofInts entry.2.id entry.2.attempt) = true) ↔
      ∀ key ∈ store.completions.keys, ¬ key.HoldsText) ∧
    ((store.stages.values.map fun stage => (stage.id, stage.attempt)).Nodup ↔
      store.stages.keys.Pairwise fun a b =>
        a.HoldsText ∨ b.HoldsText → ¬ ∃ ids, a.Reads ids ∧ b.Reads ids) := by
  have h : (Intake.records settings {} items).1.store.Identified :=
    records_store_invariant (Store.apply_identified settings) Store.identified_empty items
  exact ⟨h.tasks_nodup_iff, h.stages.agrees_iff, h.completions.agrees_iff, h.stages.nodup_iff⟩

/-- The end of a task of the first stage. -/
def finishedTask (id : Payload) : Payload :=
  .object
    [ ("Event", .text "SparkListenerTaskEnd"), ("Stage ID", .int 1), ("Stage Attempt ID", .int 0),
      ("Task End Reason", .object []), ("Task Info", .object [("Task ID", id)]) ]

/-- The submission of a stage. -/
def submittedStage (id : Payload) : Payload :=
  .object
    [ ("Event", .text "SparkListenerStageSubmitted"),
      ("Stage Info", .object [("Stage ID", id)]) ]

/-- An identifier that comes as an integer and as a text is recorded twice, for tasks and for
stages, and the key with the text does not agree with its record. -/
theorem records_text_identifiers :
    let tasks := Intake.records {} {} [finishedTask (.int 7), finishedTask (.text "7")]
    let stages := Intake.records {} {} [submittedStage (.int 4), submittedStage (.text "4")]
    tasks.2 = none ∧ stages.2 = none ∧
      tasks.1.store.tasks.map Task.identifiers = [(1, 0, 7, 0), (1, 0, 7, 0)] ∧
      (stages.1.store.stages.values.map fun stage => (stage.id, stage.attempt)) =
        [(4, 0), (4, 0)] ∧
      stages.1.store.stages.keys = [.ofInts 4 0, ⟨.text "4", .int 0⟩] ∧
      StageKey.agrees ⟨.text "4", .int 0⟩ (.ofInts 4 0) = false := by
  decide +kernel

end Intake

end SparkLog
