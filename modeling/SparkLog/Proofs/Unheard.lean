import SparkLog.Inquiry
import SparkLog.Proofs.Replay

/-!
# Events unheard of

An event whose name is none of the declared ones is kept aside, whatever else its record holds.
Records of such events can be put between those of a log at any place: the intake gets through them,
they are kept aside where they come, and nothing that is derived or asked for depends on them
(`of_interleaved`).
-/

namespace SparkLog

/-! ## Records -/

/-- Setting a field leaves the others as they are. -/
theorem Fields.get_set_of_ne {fields : Fields} {key other : String} (hother : other ≠ key)
    (value : Payload) : (fields.set key value).get? other = fields.get? other := by
  induction fields with
  | nil =>
      simp [set, get?, hother]
  | cons field rest ih =>
      obtain ⟨first, old⟩ := field
      simp only [set, get?] at ih ⊢
      split
      · rename_i hfirst
        have hne : (other == first) = false := by simpa [hfirst] using hother
        simp only [List.lookup_cons, hne]
      · rw [List.lookup_cons, List.lookup_cons, ih]

/-- A field that is set has the value. -/
theorem Fields.get_set_self (fields : Fields) (key : String) (value : Payload) :
    (fields.set key value).get? key = some value := by
  induction fields with
  | nil => simp [set, get?]
  | cons field rest ih =>
      obtain ⟨first, old⟩ := field
      simp only [set, get?] at ih ⊢
      split
      · next hfirst => simp [hfirst]
      · next hfirst =>
          have hne : (key == first) = false := beq_false_of_ne (Ne.symm hfirst)
          rw [List.lookup_cons, hne]
          exact ih

/-- A record with a timestamp has all other fields that it had. -/
theorem get_with_timestamp_of_ne {fields : Fields} {key : String} (h : key ≠ "Timestamp") :
    (withTimestamp fields).get? key = fields.get? key := by
  unfold withTimestamp
  split
  · split
    · rfl
    · exact Fields.get_set_of_ne h _
  · rfl

/-- A record in the current form has all fields that it had, but for the timestamp and the metrics
of a task. -/
theorem get_normalize_of_ne {fields : Fields} {key : String} (htime : key ≠ "Timestamp")
    (hmetrics : key ≠ "Task Metrics") : (normalize fields).get? key = fields.get? key := by
  unfold normalize withMetricGroups
  split
  · exact (Fields.get_set_of_ne hmetrics _).trans (get_with_timestamp_of_ne htime)
  · exact get_with_timestamp_of_ne htime

/-- A record in the current form has the name that it had. -/
theorem get_event_normalize (fields : Fields) :
    (normalize fields).get? "Event" = fields.get? "Event" :=
  get_normalize_of_ne (by decide) (by decide)

/-- A name is none of the declared ones, with or without package. -/
def EventKind.IsUnheard (name : String) : Prop :=
  shortName name ∉ declared.map EventKind.name

instance (name : String) : Decidable (EventKind.IsUnheard name) :=
  inferInstanceAs (Decidable (_ ∉ _))

/-- The event of a record that is an object under a name unheard of. -/
def unheardEvent? : Payload → Option Event
  | .object fields =>
    match Fields.get? fields "Event" with
    | some (.text name) =>
      if name ≠ "" ∧ EventKind.IsUnheard name then
        some { name, content := .other, extras := (normalize fields).filter (·.1 != "Event") }
      else none
    | _ => none
  | _ => none

/-- The kind of a name is no declared one exactly if the name is unheard of. -/
theorem EventKind.of_name_eq_other_iff {name : String} : ofName name = .other ↔ IsUnheard name := by
  unfold ofName IsUnheard
  cases hfound : declared.find? fun kind => kind.name == shortName name with
  | none =>
      have hnone : ∀ kind ∈ declared, kind.name ≠ shortName name := by
        simpa [List.find?_eq_none] using hfound
      refine iff_of_true rfl ?_
      intro hmem
      obtain ⟨kind, hkind, hname⟩ := List.mem_map.mp hmem
      exact hnone kind hkind hname
  | some kind =>
      have hmem : kind ∈ declared := List.mem_of_find?_eq_some hfound
      have hname : kind.name = shortName name := by simpa using List.find?_some hfound
      refine iff_of_false ?_ ?_
      · show kind ≠ .other
        rintro rfl
        simp [declared] at hmem
      · intro hunheard
        exact hunheard (hname ▸ List.mem_map_of_mem hmem)

/-- A record is looked into under a text exactly if it is an object under that text, which is not
empty. -/
theorem named_record_text_iff {record : Payload} {fields : Fields} {name : String} :
    namedRecord? record = some (fields, .text name) ↔
      record = .object fields ∧ fields.get? "Event" = some (.text name) ∧ name ≠ "" := by
  cases record with
  | object found =>
      simp only [namedRecord?, Payload.object.injEq]
      cases hget : Fields.get? found "Event" with
      | none =>
          refine iff_of_false ?_ ?_
          · intro h
            cases h
          · rintro ⟨rfl, hsome, -⟩
            cases hget.symm.trans hsome
      | some value =>
          show (if value.isTruthy then some (found, value) else none) = _ ↔ _
          constructor
          · intro h
            by_cases htruthy : value.isTruthy = true
            · rw [if_pos htruthy] at h
              obtain ⟨rfl, rfl⟩ := Prod.mk.inj (Option.some.inj h)
              exact ⟨rfl, hget, by simpa [Payload.isTruthy] using htruthy⟩
            · rw [if_neg htruthy] at h
              cases h
          · rintro ⟨rfl, hsome, hname⟩
            obtain rfl := Option.some.inj (hget.symm.trans hsome)
            simp [Payload.isTruthy, hname]
  | _ =>
      refine iff_of_false ?_ ?_
      · intro h
        cases h
      · rintro ⟨h, -⟩
        cases h

/-- A record is read as an event exactly if it is under a text and its fields fit. -/
theorem read_event_eq_some_iff {record : Payload} {event : Event} :
    readEvent? record = some event ↔
      ∃ fields name, namedRecord? record = some (fields, .text name) ∧
        Event.ofFields name (normalize fields) = .ok event := by
  unfold readEvent? readRecord
  cases namedRecord? record with
  | none => simp [leaveOut]
  | some named =>
      obtain ⟨fields, name⟩ := named
      cases name with
      | text text =>
          cases hevent : Event.ofFields text (normalize fields) <;>
            simp [Scalar.ofPayload, leaveOut, hevent]
      | _ => simp [Scalar.ofPayload, EventKind.shortNameOf, Except.map]

/-- What a checked function makes of any argument it makes of a checked one. -/
theorem Checked.of_seq_ok {α β : Type} {P : β → Prop} {f : Checked (α → β)} {checked : Checked α}
    (h : ∀ g, f = .ok g → ∀ argument, P (g argument)) :
    ∀ value, (f <*> checked) = .ok value → P value := by
  intro value hvalue
  obtain ⟨g, hg, argument, -, rfl⟩ := seq_eq_ok_iff.mp hvalue
  exact h g hg argument

/-- The content that is read for a kind is of that kind. -/
theorem EventContent.kind_of_fields {kind : EventKind} {fields : Fields} :
    ∀ content, ofFields kind fields = .ok content → content.kind = kind := by
  cases kind with
  | other =>
      intro content h
      obtain rfl := Checked.ok.inj h
      rfl
  | _ =>
      -- A constructor is applied to one checked field after the other.
      unfold ofFields
      repeat apply Checked.of_seq_ok
      intro make hmake
      obtain rfl := Checked.ok.inj hmake
      intros
      rfl

/-- A content is of no declared kind exactly if there is nothing in it. -/
theorem EventContent.kind_eq_other_iff {content : EventContent} :
    content.kind = .other ↔ content = .other := by
  cases content <;> simp [kind]

/-- A record under a name is an event of no declared kind exactly if the name is unheard of; it has
all fields but the name then. -/
theorem Event.of_fields_other_iff {name : String} {fields : Fields} {event : Event}
    (hname : fields.get? "Event" = some (.text name)) :
    Event.ofFields name fields = .ok event ∧ event.content = .other ↔
      EventKind.IsUnheard name ∧
        event = { name, content := .other, extras := fields.filter (·.1 != "Event") } := by
  rw [← EventKind.of_name_eq_other_iff, ofFields]
  simp only [Schema.accept_eq_ok_iff, Schema.required, hname, Schema.text, Checked.seq_eq_ok_iff,
    Checked.map_eq_ok_iff]
  constructor
  · rintro ⟨⟨_, ⟨_, hsame, rfl⟩, content, hcontent, rfl⟩, rfl⟩
    obtain rfl := Checked.ok.inj hsame
    have hkind : EventKind.ofName name = .other := (EventContent.kind_of_fields _ hcontent).symm
    simp [hkind, EventKind.keys]
  · rintro ⟨hkind, rfl⟩
    refine ⟨⟨_, ⟨name, rfl, rfl⟩, .other, by rw [hkind]; rfl, ?_⟩, rfl⟩
    simp [hkind, EventKind.keys]

/-- The record of an event unheard of is one that is read as an event of no declared kind. -/
theorem unheard_event_eq_some_iff {record : Payload} {event : Event} :
    unheardEvent? record = some event ↔
      readEvent? record = some event ∧ event.content = .other := by
  simp only [read_event_eq_some_iff, named_record_text_iff]
  constructor
  · intro h
    unfold unheardEvent? at h
    split at h
    · rename_i fields
      split at h
      · rename_i name hget
        split at h
        · rename_i hname
          obtain ⟨hevent, hother⟩ := (Event.of_fields_other_iff
            ((get_event_normalize fields).trans hget)).mpr ⟨hname.2, (Option.some.inj h).symm⟩
          exact ⟨⟨fields, name, ⟨rfl, hget, hname.1⟩, hevent⟩, hother⟩
        · cases h
      · cases h
    · cases h
  · rintro ⟨⟨fields, name, ⟨rfl, hget, hname⟩, hevent⟩, hother⟩
    obtain ⟨hunheard, rfl⟩ := (Event.of_fields_other_iff
      ((get_event_normalize fields).trans hget)).mp ⟨hevent, hother⟩
    simp only [unheardEvent?, hget]
    exact if_pos ⟨hname, hunheard⟩

/-- Whether an event is of no declared kind. -/
def Event.isUnheard (event : Event) : Bool :=
  event.content.kind == .other

/-- An event is of no declared kind exactly if there is nothing in it. -/
theorem Event.is_unheard_iff {event : Event} : event.isUnheard = true ↔ event.content = .other := by
  rw [isUnheard, beq_iff_eq, EventContent.kind_eq_other_iff]

/-- Of the events that records are read as, those of no declared kind are the ones unheard of. -/
theorem filter_read_events (items : List Payload) :
    (items.filterMap readEvent?).filter Event.isUnheard = items.filterMap unheardEvent? := by
  rw [List.filter_filterMap]
  congr 1
  funext record
  ext event
  rw [Option.filter_eq_some_iff, Event.is_unheard_iff, unheard_event_eq_some_iff]

/-! ## Stores -/

namespace Store

variable {settings : Settings} {store : Store}

/-- A store with other events kept aside. -/
def withOthers (store : Store) (others : List Event) : Store :=
  { store with others }

/-- What an event adds does not depend on the events kept aside. -/
theorem absorb_with_others (store : Store) (others : List Event) (event : Event) :
    (store.withOthers others).absorb settings event =
      (store.absorb settings event).withOthers (others ++ (alone settings event).others) := rfl

/-- An event of no declared kind is kept aside, and that is all. -/
theorem absorb_unheard {event : Event} (h : event.isUnheard = true) (store : Store) :
    store.absorb settings event = store.withOthers (store.others ++ [event]) := by
  rw [← apply_eq_absorb]
  simp only [apply, Event.is_unheard_iff.mp h]
  rfl

/-- An event adds itself to those kept aside if it is of no declared kind, and nothing otherwise. -/
theorem others_alone (settings : Settings) (event : Event) :
    (alone settings event).others = [event].filter Event.isUnheard := by
  cases h : event.isUnheard with
  | true =>
      have halone : (({} : Store).apply settings event).1 = withOthers {} [event] :=
        (apply_eq_absorb settings {} event).trans (absorb_unheard h {})
      rw [alone, halone]
      simp [withOthers, h]
  | false =>
      have hother : event.content ≠ .other :=
        mt Event.is_unheard_iff.mpr (Bool.eq_false_iff.mp h)
      rw [alone, apply_others hother]
      simp [h]

/-- Behind events, those of them that are of no declared kind are kept aside. -/
theorem others_absorb_all (store : Store) (events : List Event) :
    (store.absorbAll settings events).others = store.others ++ events.filter Event.isUnheard := by
  rw [absorb_all_list (·.others) (fun _ _ => rfl)]
  congr 1
  induction events with
  | nil => rfl
  | cons event rest ih =>
      rw [List.flatMap_cons, ih, others_alone, ← List.filter_append, List.singleton_append]

/-- Apart from the events kept aside, a store is what events of declared kinds make of it. -/
theorem absorb_all_declared (store : Store) (others : List Event) (events : List Event) :
    ((store.withOthers others).absorbAll settings events).withOthers [] =
      (store.absorbAll settings (events.filter (!·.isUnheard))).withOthers [] := by
  induction events generalizing store others with
  | nil => rfl
  | cons event rest ih =>
      cases h : event.isUnheard with
      | true =>
          have hkept : (store.withOthers others).absorb settings event =
              store.withOthers (others ++ [event]) := absorb_unheard h _
          rw [absorb_all_cons, hkept, ih, List.filter_cons_of_neg (by simp [h])]
      | false =>
          rw [absorb_all_cons, absorb_with_others, ih, List.filter_cons_of_pos (by simp [h]),
            absorb_all_cons]

/-- Events of declared kinds make the same of a store wherever others come between them. -/
theorem absorb_all_eq_with_others {events again : List Event}
    (h : again.filter (!·.isUnheard) = events.filter (!·.isUnheard)) :
    ({} : Store).absorbAll settings again =
      (({} : Store).absorbAll settings events).withOthers (again.filter Event.isUnheard) := by
  have hothers : (({} : Store).absorbAll settings again).others = again.filter Event.isUnheard :=
    others_absorb_all {} again
  have hdeclared (items : List Event) : (({} : Store).absorbAll settings items).withOthers [] =
      (({} : Store).absorbAll settings (items.filter (!·.isUnheard))).withOthers [] :=
    absorb_all_declared {} [] items
  have hsame := hdeclared again
  rw [h, ← hdeclared events] at hsame
  rw [← hothers]
  exact congrArg (fun after : Store => after.withOthers _) hsame

/-! ## Derivation and inquiries -/

/-- What is closed in a store does not depend on the events kept aside. -/
theorem closed_with_others (store : Store) (others : List Event) :
    (store.withOthers others).closed = store.closed.withOthers others := rfl

/-- What an analysis finds in a store does not depend on the events kept aside. -/
theorem analyze_with_others (store : Store) (others : List Event) :
    (store.withOthers others).analyze = store.analyze.withOthers others := by
  rw [analyze_eq, analyze_eq]
  rfl

/-- What is derived from a store does not depend on the events kept aside, and they stay. -/
theorem derive_with_others {derived : Store} (h : store.derive = .ok derived)
    (others : List Event) :
    (store.withOthers others).derive = .ok (derived.withOthers others) := by
  obtain ⟨hcloses, rfl⟩ := derive_eq_ok_iff.mp h
  refine derive_eq_ok_iff.mpr
    ⟨⟨hcloses.jobs, hcloses.stages, hcloses.queries, hcloses.application⟩, ?_⟩
  rw [closed_with_others, analyze_with_others]
  rfl

/-- Derivation keeps no event aside. -/
theorem others_of_derive {derived : Store} (h : store.derive = .ok derived) :
    derived.others = store.others := by
  obtain ⟨-, rfl⟩ := derive_eq_ok_iff.mp h
  rw [analyze_eq]
  rfl

/-- Events kept aside do not interrupt, nor do they keep anything else from doing so. -/
theorem halts_with_others_iff (store : Store) (others : List Event) (record : Payload) :
    (store.withOthers others).Halts record ↔ store.Halts record :=
  ⟨Recalls.halts ⟨fun _ h => h, fun _ h => h⟩, Recalls.halts ⟨fun _ h => h, fun _ h => h⟩⟩

end Store

/-- No answer but the summary of a store depends on the events kept aside. -/
theorem Inquiry.ask_with_others {inquiry : Inquiry} (h : inquiry ≠ .storeSummary) (store : Store)
    (others : List Event) (settings : Settings) (index : Int) (tasks : List Task) :
    inquiry.ask (store.withOthers others) settings index tasks =
      inquiry.ask store settings index tasks := by
  have hanswer : inquiry.answer (store.withOthers others) settings index tasks =
      inquiry.answer store settings index tasks := by
    cases inquiry with
    | storeSummary => exact absurd rfl h
    | _ => rfl
  simp only [ask, hanswer]
  rfl

/-! ## Runs -/

/-- A list has the items of two others, those of each in their order. -/
inductive Interleaved {α : Type} : List α → List α → List α → Prop where
  | nil : Interleaved [] [] []
  | left (item : α) {first second whole : List α} :
      Interleaved first second whole → Interleaved (item :: first) second (item :: whole)
  | right (item : α) {first second whole : List α} :
      Interleaved first second whole → Interleaved first (item :: second) (item :: whole)

namespace Interleaved

variable {α β : Type} {first second whole : List α}

/-- What is made of the items of an interleaved list is interleaved like them. -/
theorem filter_map (f : α → Option β) (h : Interleaved first second whole) :
    Interleaved (first.filterMap f) (second.filterMap f) (whole.filterMap f) := by
  induction h with
  | nil => exact .nil
  | left item _ ih =>
      rw [List.filterMap_cons, List.filterMap_cons]
      cases f item with
      | none => exact ih
      | some made => exact .left made ih
  | right item _ ih =>
      rw [List.filterMap_cons, List.filterMap_cons]
      cases f item with
      | none => exact ih
      | some made => exact .right made ih

/-- Of an interleaved list, the items that only one of the two has are those of that one. -/
theorem filter_eq {p : α → Bool} (h : Interleaved first second whole)
    (hsecond : ∀ item ∈ second, p item = false) : whole.filter p = first.filter p := by
  induction h with
  | nil => rfl
  | left item _ ih => rw [List.filter_cons, List.filter_cons, ih hsecond]
  | right item _ ih =>
      obtain ⟨hitem, hothers⟩ := List.forall_mem_cons.mp hsecond
      rw [List.filter_cons_of_neg (by simp [hitem]), ih hothers]

/-- An interleaved list is as long as the two together. -/
theorem length_eq (h : Interleaved first second whole) :
    whole.length = first.length + second.length := by
  induction h with
  | nil => rfl
  | left item _ ih => rw [List.length_cons, List.length_cons, ih, Nat.add_right_comm]
  | right item _ ih => rw [List.length_cons, List.length_cons, ih, Nat.add_assoc]

end Interleaved

variable {settings : Settings} {records inserted wider : List Payload}

/-- The events of declared kinds are the same wherever records of others come between them. -/
theorem Interleaved.declared_events (h : Interleaved records inserted wider)
    (hunheard : ∀ record ∈ inserted, (unheardEvent? record).isSome) :
    (wider.filterMap readEvent?).filter (!·.isUnheard) =
      (records.filterMap readEvent?).filter (!·.isUnheard) := by
  apply (h.filter_map readEvent?).filter_eq
  intro event hmem
  obtain ⟨record, hrecord, hread⟩ := List.mem_filterMap.mp hmem
  obtain ⟨kept, hkept⟩ := Option.isSome_iff_exists.mp (hunheard record hrecord)
  obtain ⟨hsame, hother⟩ := unheard_event_eq_some_iff.mp hkept
  obtain rfl := Option.some.inj (hsame.symm.trans hread)
  rw [Event.is_unheard_iff.mpr hother]
  rfl

/-- As many events are kept aside as there are records of them put in between. -/
theorem Interleaved.length_unheard (h : Interleaved records inserted wider)
    (hunheard : ∀ record ∈ inserted, (unheardEvent? record).isSome) :
    (wider.filterMap unheardEvent?).length =
      (records.filterMap unheardEvent?).length + inserted.length := by
  rw [(h.filter_map unheardEvent?).length_eq, List.filterMap_length_eq_length.mpr hunheard]

namespace Intake

/-- A tolerant intake gets through a record of an event unheard of. -/
theorem record_unheard (hlenient : settings.strict = false) (intake : Intake) {record : Payload}
    {event : Event} (h : unheardEvent? record = some event) :
    (intake.record settings record).2 = none ∧
      (intake.record settings record).1.store =
        intake.store.withOthers (intake.store.others ++ [event]) := by
  obtain ⟨hread, hother⟩ := unheard_event_eq_some_iff.mp h
  have hcomplete : (intake.record settings record).2 = none := by
    rw [record_complete_iff hlenient]
    obtain ⟨fields, name, hnamed, hevent⟩ := read_event_eq_some_iff.mp hread
    rintro ⟨_, _, hnamed', hname | ⟨text, event', rfl, hevent', hoverflows⟩⟩
    · obtain ⟨rfl, rfl⟩ := Prod.mk.inj (Option.some.inj (hnamed.symm.trans hnamed'))
      exact hname name rfl
    · obtain ⟨rfl, hsame⟩ := Prod.mk.inj (Option.some.inj (hnamed.symm.trans hnamed'))
      obtain rfl := Payload.text.inj hsame
      obtain rfl := Except.ok.inj (hevent.symm.trans hevent')
      rw [hother] at hoverflows
      exact hoverflows
  refine ⟨hcomplete, (record_store_eq hlenient hcomplete).trans ?_⟩
  rw [hread]
  exact Store.absorb_unheard (Event.is_unheard_iff.mpr hother) intake.store

/-- A tolerant intake that gets through its records gets through them wherever records of events
unheard of come between them. -/
theorem records_interleaved_complete (hlenient : settings.strict = false)
    (h : Interleaved records inserted wider)
    (hunheard : ∀ record ∈ inserted, (unheardEvent? record).isSome) {intake wide : Intake}
    {others : List Event} (hstore : wide.store = intake.store.withOthers others)
    (hcomplete : (Intake.records settings intake records).2 = none) :
    (Intake.records settings wide wider).2 = none := by
  induction h generalizing intake wide others with
  | nil => rfl
  | @left record records inserted wider _ ih =>
      -- Both intakes get through the record, and it changes their stores alike.
      have hone : (intake.record settings record).2 = none :=
        Changed.fold_complete_iff.mp hcomplete [] record records rfl
      have hwide : (wide.record settings record).2 = none := by
        rw [record_complete_iff hlenient] at hone ⊢
        rw [hstore, Store.halts_with_others_iff]
        exact hone
      obtain ⟨after, hafter⟩ : ∃ after, (wide.record settings record).1.store =
          (intake.record settings record).1.store.withOthers after := by
        rw [record_store_eq hlenient hone, record_store_eq hlenient hwide, hstore]
        cases readEvent? record with
        | none => exact ⟨others, rfl⟩
        | some event => exact ⟨_, Store.absorb_with_others intake.store others event⟩
      have hrest : (Intake.records settings (intake.record settings record).1 records).2 = none :=
        (congrArg Prod.snd (Changed.fold_cons_of_complete hone records)).symm.trans hcomplete
      exact (congrArg Prod.snd (Changed.fold_cons_of_complete hwide wider)).trans
        (ih hunheard hafter hrest)
  | @right record records inserted wider _ ih =>
      obtain ⟨hrecord, hothers⟩ := List.forall_mem_cons.mp hunheard
      obtain ⟨event, hevent⟩ := Option.isSome_iff_exists.mp hrecord
      obtain ⟨hwide, hafter⟩ := record_unheard hlenient wide hevent
      have hkept : (wide.record settings record).1.store =
          intake.store.withOthers (wide.store.others ++ [event]) := by
        rw [hafter, hstore]
        rfl
      exact (congrArg Prod.snd (Changed.fold_cons_of_complete hwide wider)).trans
        (ih hothers hkept hcomplete)

end Intake

namespace Analysis

/-- Records of events unheard of can come between those of a log at any place: the log is analysed
with the same result, but for the events of no declared kind, which are kept aside in the order of
their records. No answer changes but the count of these events in the summary of the store. -/
theorem of_interleaved {index : Int} {analysis : Analysis} (hlenient : settings.strict = false)
    (hanalysis : ofRecords settings index records = .ok analysis)
    (hinterleaved : Interleaved records inserted wider)
    (hunheard : ∀ record ∈ inserted, (unheardEvent? record).isSome) :
    analysis.store.others = records.filterMap unheardEvent? ∧
      ∃ again, ofRecords settings index wider = .ok again ∧
        again.store = analysis.store.withOthers (wider.filterMap unheardEvent?) ∧
        (∀ inquiry, inquiry ≠ .storeSummary → again.ask inquiry = analysis.ask inquiry) ∧
        again.store.summary = analysis.store.summary.map fun (family, count) =>
          (family, if family = "other_events" then count + inserted.length else count) := by
  obtain ⟨hcomplete, derived, hderive, rfl⟩ := of_records_eq_ok_iff.mp hanalysis
  have hothers : derived.others = records.filterMap unheardEvent? := by
    rw [Store.others_of_derive hderive, Intake.records_store_eq hlenient hcomplete,
      Store.others_absorb_all, filter_read_events]
    rfl
  have hempty : ({} : Intake).store = ({} : Intake).store.withOthers [] := rfl
  have hagain : (Intake.records settings {} wider).2 = none :=
    Intake.records_interleaved_complete hlenient hinterleaved hunheard hempty hcomplete
  have hstore : (Intake.records settings {} wider).1.store =
      (Intake.records settings {} records).1.store.withOthers
        (wider.filterMap unheardEvent?) := by
    rw [Intake.records_store_eq hlenient hagain, Intake.records_store_eq hlenient hcomplete,
      ← filter_read_events]
    exact Store.absorb_all_eq_with_others (hinterleaved.declared_events hunheard)
  have hderiveAgain := Store.derive_with_others hderive (wider.filterMap unheardEvent?)
  rw [← hstore] at hderiveAgain
  refine ⟨hothers, _, of_records_eq_ok_iff.mpr ⟨hagain, _, hderiveAgain, rfl⟩, rfl,
    fun inquiry hinquiry => Inquiry.ask_with_others hinquiry derived _ settings index derived.tasks,
    ?_⟩
  have hlength := hinterleaved.length_unheard hunheard
  rw [← hothers] at hlength
  simp [Store.summary, Store.withOthers, hlength, Keyed.size]

/-- The start of a job. -/
def jobStarted : Payload :=
  .object
    [("Event", .text "SparkListenerJobStart"), ("Job ID", .int 1), ("Submission Time", .int 10)]

/-- The end of the job. -/
def jobEnded : Payload :=
  .object
    [("Event", .text "SparkListenerJobEnd"), ("Job ID", .int 1), ("Completion Time", .int 40)]

/-- An event unheard of, with fields that are looked into in other records. -/
def unheardUpdate : Payload :=
  .object
    [ ("Event", .text "org.apache.spark.sql.execution.ui.SparkListenerUnheardOf"),
      ("Job ID", .int 1), ("Time", .text "never"), ("Task Metrics", .object []) ]

/-- An event under the name that stands for all events of no declared kind. -/
def nameless : Payload :=
  .object [("Event", .text "SparkEvent"), ("Completion Time", .int 20)]

/-- The job is analysed as without the unheard events on both sides of its end. -/
theorem of_job_interleaved : ∃ analysis again,
    Interleaved [jobStarted, jobEnded] [unheardUpdate, nameless]
        [jobStarted, unheardUpdate, jobEnded, nameless] ∧
      ofRecords {} 0 [jobStarted, jobEnded] = .ok analysis ∧
      ofRecords {} 0 [jobStarted, unheardUpdate, jobEnded, nameless] = .ok again ∧
      again.store.others.map Event.name =
        ["org.apache.spark.sql.execution.ui.SparkListenerUnheardOf", "SparkEvent"] ∧
      again.store.jobs.values.map Job.duration = [some 30] ∧
      again.ask .jobInfo = analysis.ask .jobInfo := by
  have hinterleaved : Interleaved [jobStarted, jobEnded] [unheardUpdate, nameless]
      [jobStarted, unheardUpdate, jobEnded, nameless] :=
    .left _ (.right _ (.left _ (.right _ .nil)))
  have hunheard : ∀ record ∈ [unheardUpdate, nameless], (unheardEvent? record).isSome := by
    decide +kernel
  obtain ⟨analysis, hanalysis, hduration⟩ : ∃ analysis,
      ofRecords {} 0 [jobStarted, jobEnded] = .ok analysis ∧
        analysis.store.jobs.values.map Job.duration = [some 30] :=
    ⟨_, rfl, rfl⟩
  have hnames : ([jobStarted, unheardUpdate, jobEnded, nameless].filterMap unheardEvent?).map
      Event.name =
        ["org.apache.spark.sql.execution.ui.SparkListenerUnheardOf", "SparkEvent"] := by
    decide +kernel
  obtain ⟨-, again, hagain, hstore, hask, -⟩ := of_interleaved rfl hanalysis hinterleaved hunheard
  have hothers : again.store.others =
      [jobStarted, unheardUpdate, jobEnded, nameless].filterMap unheardEvent? :=
    congrArg Store.others hstore
  have hjobs : again.store.jobs = analysis.store.jobs := by
    rw [hstore]
    rfl
  rw [← hothers] at hnames
  rw [← hjobs] at hduration
  exact ⟨analysis, again, hinterleaved, hanalysis, hagain, hnames, hduration,
    hask .jobInfo nofun⟩

end Analysis

end SparkLog
