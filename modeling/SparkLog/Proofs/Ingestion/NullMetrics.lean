import SparkLog.Proofs.Unheard
import SparkLog.Session

/-!
# Metrics that were not collected

A metric that was not collected is null. It counts as zero, whether it is null, absent or zero, and
so do the metrics of a group that is null, absent or an object of nulls, and those of a task whose
metrics are. Each stage of reading keeps what is told alike: metrics of groups
(`GroupAlike.raw_metric`), the row of metrics (`ReadAlike.flatten`), the content of the event
(`NullsReplaced.content`), and so the whole step (`Session.step_null_metrics`).
-/

namespace SparkLog

/-! ## What is told alike -/

/-- A metric is told as before, or what was null is absent or zero. -/
inductive MetricAlike : Option Payload → Option Payload → Prop where
  | same (told : Option Payload) : MetricAlike told told
  | absent : MetricAlike (some .null) none
  | zero : MetricAlike (some .null) (some (.int 0))

/-- A group of metrics is told as before, or what was null is absent or an object of nulls, or its
metrics are told alike. -/
inductive GroupAlike : Option Payload → Option Payload → Prop where
  | same (told : Option Payload) : GroupAlike told told
  | absent : GroupAlike (some .null) none
  | nulls {fields : Fields} (h : ∀ field ∈ fields, field.2 = .null) :
    GroupAlike (some .null) (some (.object fields))
  | metrics {before after : Fields} (h : ∀ key, MetricAlike (before.get? key) (after.get? key)) :
    GroupAlike (some (.object before)) (some (.object after))

/-- The metrics of a task are told as before, or what was null is absent or an object of nulls, or
its groups and metrics are told alike. -/
inductive MetricsAlike : Option Payload → Option Payload → Prop where
  | same (told : Option Payload) : MetricsAlike told told
  | absent : MetricsAlike (some .null) none
  | nulls {fields : Fields} (h : ∀ field ∈ fields, field.2 = .null) :
    MetricsAlike (some .null) (some (.object fields))
  | metrics {before after : Fields}
    (hgroups : ∀ key ∈ metricGroups, GroupAlike (before.get? key) (after.get? key))
    (hmetrics : ∀ key ∉ metricGroups, MetricAlike (before.get? key) (after.get? key)) :
    MetricsAlike (some (.object before)) (some (.object after))

/-- A record is the same but for null metrics. -/
def NullsReplaced (before after : Fields) : Prop :=
  (∀ key ≠ "Task Metrics", after.get? key = before.get? key) ∧
    MetricsAlike (before.get? "Task Metrics") (after.get? "Task Metrics")

/-! ## Metrics -/

variable {before after : Fields}

/-- Metrics that are told alike are read alike. -/
theorem MetricAlike.raw_metric {key : String}
    (h : MetricAlike (before.get? key) (after.get? key)) :
    rawMetric after key = rawMetric before key := by
  unfold rawMetric Fields.find Fields.getD
  generalize before.get? key = told at h
  generalize after.get? key = told' at h
  cases h <;> rfl

/-- A field of an object of nulls is absent or null. -/
theorem get_of_nulls {fields : Fields} (h : ∀ field ∈ fields, field.2 = .null) (key : String) :
    fields.get? key = none ∨ fields.get? key = some .null := by
  unfold Fields.get?
  cases hfound : fields.lookup key with
  | none => exact .inl rfl
  | some value =>
      obtain ⟨earlier, later, rfl, -⟩ := List.lookup_eq_some_iff.mp hfound
      exact .inr (congrArg some (h (key, value) (by simp)))

/-- A metric of an object of nulls is read as zero. -/
theorem raw_metric_of_nulls {fields : Fields} (h : ∀ field ∈ fields, field.2 = .null)
    (key : String) : rawMetric fields key = .int 0 := by
  unfold rawMetric Fields.find Fields.getD
  obtain hnone | hnull := get_of_nulls h key
  · rw [hnone]
    rfl
  · rw [hnull]
    rfl

/-! ## Groups -/

/-- The metrics of a group, as they are told; what is no object has none. -/
def groupTold : Option Payload → Fields
  | some (.object fields) => fields
  | _ => []

/-- Groups that are told alike are read alike. -/
theorem GroupAlike.raw_metric {told told' : Option Payload} (h : GroupAlike told told') :
    rawMetric (groupTold told') = rawMetric (groupTold told) := by
  cases h with
  | same | absent => rfl
  | nulls hnulls => exact funext fun key => raw_metric_of_nulls hnulls key
  | metrics halike => exact funext fun key => (halike key).raw_metric

/-- A group that is ensured is an object, and all other fields stay. -/
theorem get_ensure_group (metrics : Fields) (group key : String) :
    (ensureGroup metrics group).get? key =
      if key = group then some (.object (groupTold (metrics.get? key))) else metrics.get? key := by
  unfold ensureGroup
  by_cases hkey : key = group
  · subst hkey
    rw [if_pos rfl]
    split
    · next fields hfound => rw [hfound, groupTold]
    · next hother =>
        rw [Fields.get_set_self]
        unfold groupTold
        split
        · next fields hfound => exact absurd hfound (hother fields)
        · rfl
  · rw [if_neg hkey]
    split
    · rfl
    · exact Fields.get_set_of_ne hkey _

/-- Groups that are ensured one after the other are objects, and all other fields stay. -/
theorem get_ensure_groups (metrics : Fields) (groups : List String) (key : String) :
    (groups.foldl ensureGroup metrics).get? key =
      if key ∈ groups then some (.object (groupTold (metrics.get? key))) else metrics.get? key := by
  induction groups generalizing metrics with
  | nil => rfl
  | cons group rest ih =>
      rw [List.foldl_cons, ih, get_ensure_group]
      by_cases hgroup : key = group
      · by_cases hrest : key ∈ rest <;> simp [hgroup, groupTold]
      · simp [hgroup]

/-- Metrics in the current form have the groups that are told. -/
theorem fields_of_group (metrics : Fields) {key : String} (h : key ∈ metricGroups) :
    (rawGroup (metricGroups.foldl ensureGroup metrics) key).fields =
      .ok (groupTold (metrics.get? key)) := by
  rw [rawGroup, Fields.find, Fields.getD, get_ensure_groups, if_pos h, Option.getD_some]
  cases groupTold (metrics.get? key) <;> rfl

/-- Metrics without any field have groups without any. -/
theorem fields_of_no_group (key : String) : (rawGroup [] key).fields = .ok [] :=
  rfl

/-! ## The row of metrics -/

/-- Two rows of nested metrics are read alike. -/
structure ReadAlike (metrics others : Fields) : Prop where
  groups : ∀ key ∈ metricGroups, ∃ group group', (rawGroup metrics key).fields = .ok group ∧
    (rawGroup others key).fields = .ok group' ∧ rawMetric group' = rawMetric group
  metrics : ∀ key ∉ metricGroups, rawMetric others key = rawMetric metrics key

/-- Metrics that are read alike have the same row. -/
theorem ReadAlike.flatten {metrics others : Fields} (h : ReadAlike metrics others) :
    flattenMetrics others = flattenMetrics metrics := by
  obtain ⟨read, read', hread, hread', hreadSame⟩ := h.groups "Shuffle Read Metrics" (by decide)
  obtain ⟨write, write', hwrite, hwrite', hwriteSame⟩ :=
    h.groups "Shuffle Write Metrics" (by decide)
  obtain ⟨input, input', hinput, hinput', hinputSame⟩ := h.groups "Input Metrics" (by decide)
  obtain ⟨output, output', houtput, houtput', houtputSame⟩ := h.groups "Output Metrics" (by decide)
  unfold flattenMetrics milliMetric
  rw [hread, hread', hwrite, hwrite', hinput, hinput', houtput, houtput']
  simp (disch := decide) only [bind, Except.bind, hreadSame, hwriteSame, hinputSame, houtputSame,
    h.metrics]

/-- Groups that are ensured leave the metrics that stand outside of them. -/
theorem raw_metric_ensured (metrics : Fields) {key : String} (h : key ∉ metricGroups) :
    rawMetric (metricGroups.foldl ensureGroup metrics) key = rawMetric metrics key := by
  rw [rawMetric, Fields.find, Fields.getD, get_ensure_groups, if_neg h]
  rfl

/-- An object of nulls in the current form is read like no metrics. -/
theorem ReadAlike.of_nulls {fields : Fields} (h : ∀ field ∈ fields, field.2 = .null) :
    ReadAlike [] (metricGroups.foldl ensureGroup fields) where
  groups key hkey := by
    refine ⟨[], _, fields_of_no_group key, fields_of_group fields hkey, ?_⟩
    obtain hnone | hnull := get_of_nulls h key
    · rw [hnone]
      rfl
    · rw [hnull]
      rfl
  metrics key hkey := (raw_metric_ensured fields hkey).trans (raw_metric_of_nulls h key)

/-- Metrics whose groups and metrics are told alike are read alike in the current form. -/
theorem ReadAlike.of_metrics
    (hgroups : ∀ key ∈ metricGroups, GroupAlike (before.get? key) (after.get? key))
    (hmetrics : ∀ key ∉ metricGroups, MetricAlike (before.get? key) (after.get? key)) :
    ReadAlike (metricGroups.foldl ensureGroup before) (metricGroups.foldl ensureGroup after) where
  groups key hkey :=
    ⟨_, _, fields_of_group before hkey, fields_of_group after hkey, (hgroups key hkey).raw_metric⟩
  metrics key hkey := by
    rw [raw_metric_ensured before hkey, raw_metric_ensured after hkey,
      (hmetrics key hkey).raw_metric]

/-! ## Checked values -/

/-- Checked values are alike: both have as many faults, or they are values in a relation. -/
inductive Checked.Alike {α β : Type} (R : α → β → Prop) : Checked α → Checked β → Prop where
  | ok {a : α} {b : β} (h : R a b) : Alike R (.ok a) (.ok b)
  | faults (count : Nat) : Alike R (.faults count) (.faults count)

namespace Checked

variable {α α' β β' : Type} {R : α → α' → Prop} {S : β → β' → Prop}

/-- What is made of checked values that are alike is alike. -/
theorem Alike.map {x : Checked α} {x' : Checked α'} (hx : Alike R x x') {f : α → β} {f' : α' → β'}
    (hf : ∀ a a', R a a' → S (f a) (f' a')) : Alike S (f <$> x) (f' <$> x') := by
  cases hx with
  | ok hx => exact .ok (hf _ _ hx)
  | faults count => exact .faults count

/-- Records that are alike are both refused, with the same failure, or accepted. -/
theorem Alike.accept {x : Checked α} {x' : Checked α'} (hx : Alike R x x') (record : String) :
    (∃ failure, Schema.accept record x = .error failure ∧
        Schema.accept record x' = .error failure) ∨
      ∃ a a', Schema.accept record x = .ok a ∧ Schema.accept record x' = .ok a' ∧ R a a' := by
  cases hx with
  | ok hx => exact .inr ⟨_, _, rfl, rfl, hx⟩
  | faults count => exact .inl ⟨_, rfl, rfl⟩

/-- A checked value is alike to itself where its value is in relation to itself. -/
theorem Alike.of_self {R : α → α → Prop} {checked : Checked α}
    (h : ∀ value, checked = .ok value → R value value) : Alike R checked checked := by
  cases checked with
  | ok value => exact .ok (h value rfl)
  | faults count => exact .faults count

/-- Checked functions that are alike are applied alike to what is alike. -/
theorem Alike.seq {f : Checked (α → β)} {f' : Checked (α' → β')} {x : Checked α} {x' : Checked α'}
    (hf : Alike (fun g g' => ∀ a a', R a a' → S (g a) (g' a')) f f') (hx : Alike R x x') :
    Alike S (f <*> x) (f' <*> x') := by
  cases hf with
  | ok hf =>
      cases hx with
      | ok hx => exact .ok (hf _ _ hx)
      | faults count => exact .faults count
  | faults count =>
      cases hx with
      | ok => exact .faults count
      | faults more => exact .faults (count + more)

end Checked

/-! ## The event -/

/-- The metrics of a task in the current form. -/
def currentMetrics : Option Payload → Option Payload
  | some (.object metrics) => some (.object (metricGroups.foldl ensureGroup metrics))
  | told => told

/-- A record in the current form has the metrics of the task in that form. -/
theorem get_metrics_normalize (fields : Fields) :
    (normalize fields).get? "Task Metrics" = currentMetrics (fields.get? "Task Metrics") := by
  have htime : (withTimestamp fields).get? "Task Metrics" = fields.get? "Task Metrics" :=
    get_with_timestamp_of_ne (by decide)
  unfold normalize withMetricGroups
  rw [htime]
  split
  · next metrics hfound => rw [Fields.get_set_self, hfound, currentMetrics]
  · next hother =>
      rw [htime]
      unfold currentMetrics
      split
      · next metrics hfound => exact absurd hfound (hother metrics)
      · rfl

/-- The metrics of a task as its end is read. -/
def readMetrics (told : Option Payload) : Checked (Option Fields) :=
  match currentMetrics told with
  | some payload => Schema.optional Schema.object payload
  | none => .ok none

/-- Metrics of a task have the same row, whether they are there or not. -/
def SameRow (metrics metrics' : Option Fields) : Prop :=
  flattenMetrics (metrics'.getD []) = flattenMetrics (metrics.getD [])

/-- Metrics of a task that are told alike have the same row, as far as they fit. -/
theorem MetricsAlike.read {told told' : Option Payload} (h : MetricsAlike told told') :
    Checked.Alike SameRow (readMetrics told) (readMetrics told') := by
  cases h with
  | same => exact .of_self fun _ _ => rfl
  | absent => exact .ok rfl
  | nulls hnulls => exact .ok (ReadAlike.of_nulls hnulls).flatten
  | metrics hgroups hmetrics => exact .ok (ReadAlike.of_metrics hgroups hmetrics).flatten

/-- What is read of a field depends on its value alone. -/
theorem Schema.required_congr {α : Type} {check : Payload → Checked α} {key : String}
    (h : after.get? key = before.get? key) :
    required after key check = required before key check := by
  rw [required, required, h]

/-- What is read of a field with a default depends on its value alone. -/
theorem Schema.with_default_congr {α : Type} {check : Payload → Checked α} {default : α}
    {key : String} (h : after.get? key = before.get? key) :
    withDefault after key default check = withDefault before key default check := by
  rw [withDefault, withDefault, h]

/-- Two contents are ends of the same task attempt, with metrics that have the same row. -/
inductive EndsAlike : EventContent → EventContent → Prop where
  | ends (stage attempt : Int) (type : String) (reason info : Fields)
    {metrics metrics' : Option Fields} (executorMetrics : Option Fields)
    (h : SameRow metrics metrics') :
    EndsAlike (.taskEnd stage attempt type reason info metrics executorMetrics)
      (.taskEnd stage attempt type reason info metrics' executorMetrics)

/-- Records of task ends that are the same but for null metrics fail alike, or are read as ends with
metrics that have the same row. -/
theorem NullsReplaced.content (h : NullsReplaced before after) :
    Checked.Alike EndsAlike (EventContent.ofFields .taskEnd (normalize before))
      (EventContent.ofFields .taskEnd (normalize after)) := by
  have hget (key : String) (htime : key ≠ "Timestamp") (hmetrics : key ≠ "Task Metrics") :
      (normalize after).get? key = (normalize before).get? key := by
    rw [get_normalize_of_ne htime hmetrics, get_normalize_of_ne htime hmetrics, h.1 key hmetrics]
  unfold EventContent.ofFields
  simp only [Schema.required_congr (hget "Stage ID" (by decide) (by decide)),
    Schema.required_congr (hget "Stage Attempt ID" (by decide) (by decide)),
    Schema.required_congr (hget "Task End Reason" (by decide) (by decide)),
    Schema.required_congr (hget "Task Info" (by decide) (by decide)),
    Schema.with_default_congr (hget "Task Type" (by decide) (by decide)),
    Schema.with_default_congr (hget "Task Executor Metrics" (by decide) (by decide))]
  have hread (fields : Fields) :
      Schema.withDefault (normalize fields) "Task Metrics" none (Schema.optional Schema.object) =
        readMetrics (fields.get? "Task Metrics") := by
    rw [Schema.withDefault, get_metrics_normalize]
    rfl
  rw [hread, hread]
  refine .seq (.seq (.of_self fun make hmake => ?_) h.2.read)
    (@Checked.Alike.of_self _ Eq _ fun _ _ => rfl)
  simp only [Checked.seq_eq_ok_iff, Checked.map_eq_ok_iff] at hmake
  obtain ⟨_, ⟨_, ⟨_, ⟨_, ⟨stage, -, rfl⟩, attempt, -, rfl⟩, type, -, rfl⟩, reason, -, rfl⟩, info, -,
    rfl⟩ := hmake
  intro metrics metrics' hrow executorMetrics _ hsame
  subst hsame
  exact .ends stage attempt type reason info executorMetrics hrow

/-- Records of task ends that are the same but for null metrics fail alike, or are read as ends of
the same task attempt. -/
theorem NullsReplaced.event (h : NullsReplaced before after) {name : String}
    (hkind : EventKind.ofName name = .taskEnd) :
    (∃ failure, Event.ofFields name (normalize before) = .error failure ∧
        Event.ofFields name (normalize after) = .error failure) ∨
      ∃ event event', Event.ofFields name (normalize before) = .ok event ∧
        Event.ofFields name (normalize after) = .ok event' ∧
        EndsAlike event.content event'.content := by
  have hname : (normalize after).get? "Event" = (normalize before).get? "Event" := by
    rw [get_event_normalize, get_event_normalize, h.1 _ (by decide)]
  unfold Event.ofFields
  rw [hkind, Schema.required_congr hname]
  -- The further fields may come in another order, which no end of a task looks at.
  refine Checked.Alike.accept (R := fun event event' : Event =>
    EndsAlike event.content event'.content)
    (.seq (.map (.of_self (R := fun _ _ => True) fun _ _ => trivial) ?_) h.content) _
  exact fun _ _ _ _ _ hcontent => hcontent

/-! ## The record -/

variable {settings : Settings}

/-- Ends of the same task attempt do the same to a store. -/
theorem EndsAlike.apply {event other : Event} (h : EndsAlike event.content other.content)
    (store : Store) : store.apply settings other = store.apply settings event := by
  obtain ⟨name, content, extras⟩ := event
  obtain ⟨name', content', extras'⟩ := other
  obtain ⟨stage, attempt, type, reason, info, executorMetrics, hrow⟩ := h
  rw [SameRow] at hrow
  simp only [Store.apply, Store.addTask, taskOfEnd, hrow]

/-- Ends of the same task attempt do the same to an intake. -/
theorem EndsAlike.intake {event other : Event} (h : EndsAlike event.content other.content)
    (intake : Intake) : intake.event settings other = intake.event settings event := by
  unfold Intake.event
  rw [h.apply]
  generalize intake.store.apply settings event = outcome
  obtain ⟨name, content, extras⟩ := event
  obtain ⟨name', content', extras'⟩ := other
  obtain ⟨stage, attempt, type, reason, info, executorMetrics, hrow⟩ := h
  obtain ⟨store, _ | failure⟩ := outcome <;> rfl

/-- A record of a task end that is read. -/
theorem NullsReplaced.reading (h : NullsReplaced before after) {name : String}
    (hname : before.get? "Event" = some (.text name)) (hkind : EventKind.ofName name = .taskEnd)
    (strict : Bool) (counts : ReadCounts) :
    (readRecord strict counts (.object after) = readRecord strict counts (.object before)) ∨
      ∃ counts' event event',
        readRecord strict counts (.object before) = (counts', .ok (some event)) ∧
        readRecord strict counts (.object after) = (counts', .ok (some event')) ∧
        EndsAlike event.content event'.content := by
  have hne : name ≠ "" := by
    rintro rfl
    exact absurd hkind (by decide)
  have hnamed {fields : Fields} (hfields : fields.get? "Event" = some (.text name)) :
      namedRecord? (.object fields) = some (fields, .text name) :=
    named_record_text_iff.mpr ⟨rfl, hfields, hne⟩
  unfold readRecord
  rw [hnamed hname, hnamed ((h.1 _ (by decide)).trans hname)]
  simp only [Scalar.ofPayload]
  obtain ⟨failure, hbefore, hafter⟩ | ⟨event, event', hbefore, hafter, hends⟩ := h.event hkind
  · left
    rw [hbefore, hafter]
  · right
    rw [hbefore, hafter]
    exact ⟨_, event, event', rfl, rfl, hends⟩

/-- The end of a task is taken in the same way, whatever stands for its null metrics. -/
theorem Session.step_null_metrics (h : NullsReplaced before after) {name : String}
    (hname : before.get? "Event" = some (.text name)) (hkind : EventKind.ofName name = .taskEnd)
    (session : Session) :
    session.step (.record (.object after)) = session.step (.record (.object before)) ∧
      session.step (.event (.object after)) = session.step (.event (.object before)) := by
  constructor
  · have hrecord : session.intake.record session.settings (.object after) =
        session.intake.record session.settings (.object before) := by
      unfold Intake.record
      obtain hsame | ⟨counts, event, event', hbefore, hafter, hends⟩ :=
        h.reading hname hkind session.settings.strict session.intake.reads
      · rw [hsame]
      · rw [hbefore, hafter]
        exact hends.intake _
    rw [step, step, hrecord]
  · rw [step, step, takeEvent, takeEvent]
    obtain hsame | ⟨counts, event, event', hbefore, hafter, hends⟩ := h.reading hname hkind false {}
    · rw [hsame]
    · rw [hbefore, hafter]
      exact congrArg session.afterIntake (hends.intake _)

/-- The end of a task with given metrics. -/
def endWithMetrics (metrics : Fields) : Fields :=
  Fields.set
    [ ("Event", .text "SparkListenerTaskEnd"), ("Stage ID", .int 1), ("Stage Attempt ID", .int 0),
      ("Task End Reason", .object []),
      ("Task Info",
        .object [("Task ID", .int 7), ("Launch Time", .int 5), ("Finish Time", .int 9)]) ]
    "Task Metrics" (.object metrics)

/-- Metrics of which some were not collected: a whole group, one metric of another, and one that
stands outside of groups. -/
def nullMetrics : Fields :=
  [ ("Shuffle Read Metrics", .null),
    ("Shuffle Write Metrics",
      .object [("Shuffle Write Time", .null), ("Shuffle Bytes Written", .int 3)]),
    ("Executor CPU Time", .null), ("Result Size", .int 11) ]

/-- The same metrics, where an object of nulls, nothing and zero stand for what was not
collected. -/
def replacedMetrics : Fields :=
  [ ("Shuffle Read Metrics", .object [("Remote Bytes Read", .null), ("Fetch Wait Time", .null)]),
    ("Shuffle Write Metrics", .object [("Shuffle Bytes Written", .int 3)]),
    ("Executor CPU Time", .int 0), ("Result Size", .int 11) ]

/-- The task is recorded with the same metrics. -/
theorem Session.step_null_metrics_replaced :
    (({} : Session).step (.record (.object (endWithMetrics nullMetrics)))).1.store.tasks.map
        (fun task => (task.id, task.metrics.resultSize, task.metrics.shuffleBytesWritten)) =
      [(7, 11, 3)] ∧
    ({} : Session).step (.record (.object (endWithMetrics replacedMetrics))) =
      ({} : Session).step (.record (.object (endWithMetrics nullMetrics))) := by
  refine ⟨by decide +kernel, ?_⟩
  have hwrite (key : String) :
      MetricAlike
        (Fields.get? [("Shuffle Write Time", .null), ("Shuffle Bytes Written", .int 3)] key)
        (Fields.get? [("Shuffle Bytes Written", .int 3)] key) := by
    by_cases hkey : key = "Shuffle Write Time"
    · subst hkey
      exact .absent
    · rw [Fields.get?, List.lookup_cons, beq_false_of_ne hkey]
      exact .same _
  have hmetrics : MetricsAlike (some (.object nullMetrics)) (some (.object replacedMetrics)) := by
    refine .metrics (fun key hkey => ?_) fun key hkey => ?_
    · simp only [metricGroups, List.mem_cons, List.not_mem_nil, or_false] at hkey
      obtain rfl | rfl | rfl | rfl := hkey
      · exact .nulls (by simp)
      · exact .metrics hwrite
      · exact .same _
      · exact .same _
    · simp only [metricGroups, List.mem_cons, List.not_mem_nil, or_false, not_or] at hkey
      by_cases hcpu : key = "Executor CPU Time"
      · subst hcpu
        exact .zero
      · simp only [Fields.get?, nullMetrics, replacedMetrics, List.lookup_cons,
          beq_false_of_ne hkey.1, beq_false_of_ne hkey.2.1, beq_false_of_ne hcpu]
        exact .same _
  have hreplaced : NullsReplaced (endWithMetrics nullMetrics) (endWithMetrics replacedMetrics) := by
    refine ⟨fun key hkey => ?_, hmetrics⟩
    rw [endWithMetrics, Fields.get_set_of_ne hkey, endWithMetrics, Fields.get_set_of_ne hkey]
  exact (step_null_metrics hreplaced rfl (by decide) {}).1

end SparkLog
