import SparkLog.Proofs.Derivation.Counting

/-!
# Whether a run is accelerated

Every update of the environment decides anew whether a run is accelerated, by its own properties of
Spark, while the properties that are recorded are those of all updates. So the last update decides
(`absorb_all_accelerated`), and a property is the one that was set last (`absorb_all_property`). The
two agree if the last update sets what the decision is read from, as far as an update before it did
(`Intake.records_accelerated`), and they may differ otherwise
(`Intake.records_accelerated_unplugged`).
-/

namespace SparkLog

/-! ## Fields -/

/-- Where no two fields have one name, what is told last about a name is its field. -/
theorem Fields.last_told_eq {fields : Fields} (hkeys : (fields.map Prod.fst).Nodup) (key : String) :
    lastTold (· == ·) fields key = fields.get? key := by
  induction fields with
  | nil => rfl
  | cons field rest ih =>
      obtain ⟨name, value⟩ := field
      obtain ⟨hnew, hrest⟩ := List.nodup_cons.mp hkeys
      rw [← List.singleton_append, last_told_append, ih hrest, List.singleton_append]
      unfold get?
      rw [List.lookup_cons]
      by_cases hkey : key = name
      · subst hkey
        have hnone : rest.lookup key = none :=
          List.lookup_eq_none_iff.mpr fun other hmem =>
            bne_iff_ne.mpr (ne_of_mem_of_not_mem (List.mem_map_of_mem hmem) hnew).symm
        simp [hnone, lastTold, firstTold]
      · simp [lastTold, firstTold, beq_eq_false_iff_ne.mpr hkey, Ne.symm hkey]

/-- A field is told about exactly if it is there. -/
theorem Fields.has_eq_any (fields : Fields) (key : String) :
    fields.has key = fields.any fun entry => entry.1 == key := by
  unfold has get?
  induction fields with
  | nil => rfl
  | cons field rest ih =>
      rw [List.lookup_cons, List.any_cons, ← ih, BEq.comm]
      cases field.1 == key <;> rfl

/-! ## Updates of the environment -/

/-- The properties of Spark that an update of the environment sets. -/
@[simp]
def EventContent.spark? : EventContent → Option Fields
  | .environmentUpdate _ spark _ _ _ => some spark
  | _ => none

/-- The properties of Spark that events set, update by update. -/
def sparkUpdates (events : List Event) : List Fields :=
  events.filterMap (·.content.spark?)

namespace Settings

/-- The plugin of the accelerator is named among the plugins, and its switch is not off. -/
def Accelerates (settings : Settings) (plugins switch : String) : Prop :=
  settings.acceleratorPlugin.toList <:+: plugins.toList ∧
    Decimal.lowerAscii (Text.strip Text.isBlank switch.toList) ≠ "false"

instance (settings : Settings) (plugins switch : String) :
    Decidable (settings.Accelerates plugins switch) :=
  inferInstanceAs (Decidable (_ ∧ _))

/-- The properties of Spark that decide whether a run is accelerated. -/
def acceleratorKeys (settings : Settings) : List String :=
  ["spark.plugins", settings.acceleratorSwitch]

end Settings

/-- The text of a field, or a default where the field is absent. -/
def Fields.textD (fields : Fields) (key default : String) : String :=
  ((fields.get? key).map Payload.render).getD default

namespace EventContent

/-- What one source tells last about a property is what it tells last about its name. -/
theorem last_told_entries (source other : PropertySource) (values : Fields) (key : String) :
    lastTold (· == ·) (properties.entries source values) (other, key) =
      if source = other then
        (lastTold (· == ·) values key).map fun value =>
          { source := source.name, key, value := value.render }
      else none := by
  induction values using List.reverseRecOn with
  | nil => split <;> rfl
  | append_singleton values value ih =>
      unfold properties.entries at ih ⊢
      rw [List.map_append, List.map_singleton, last_told_concat, last_told_concat, ih]
      by_cases hsource : source = other
      · subst hsource
        by_cases hkey : value.1 = key
        · simp [hkey]
        · simp [hkey]
      · simp [hsource]

/-- What an update tells last about a property of Spark is what it sets last under its name. -/
theorem last_told_properties (content : EventContent) (key : String) :
    lastTold (· == ·) content.properties (.spark, key) =
      (lastTold (· == ·) (content.spark?.getD []) key).map fun value =>
        { source := PropertySource.spark.name, key, value := value.render } := by
  cases content with
  | environmentUpdate jvm spark hadoop system classpath =>
      simp [last_told_append, last_told_entries]
  | _ => rfl

end EventContent

namespace Store

variable {settings : Settings}

/-- Properties are accelerating exactly if their texts are. -/
theorem is_accelerated_iff {spark : Fields} : isAccelerated settings spark = true ↔
    settings.Accelerates (spark.textD "spark.plugins" "")
      (spark.textD settings.acceleratorSwitch "true") := by
  have htext (key default : String) :
      (spark.getD key (.text default)).render = spark.textD key default := by
    unfold Fields.getD Fields.textD
    cases spark.get? key <;> rfl
  rw [isAccelerated, htext, htext, Bool.and_eq_true, Text.contains_iff, bne_iff_ne]
  rfl

/-- The last update of a run decides whether it is accelerated. -/
theorem absorb_all_accelerated {events : List Event} {last : Fields}
    (hlast : (sparkUpdates events).getLast? = some last) :
    (({} : Store).absorbAll settings events).accelerated = isAccelerated settings last := by
  have hnews : events.filterMap (fun event => event.content.accelerated? settings) =
      (sparkUpdates events).map (isAccelerated settings) := by
    rw [sparkUpdates, List.map_filterMap]
    congr 1
    funext event
    cases event.content <;> rfl
  rw [absorb_all_last (·.accelerated) (fun _ _ => rfl) {} events, hnews, List.getLast?_map, hlast]
  rfl

/-- Of the properties that events set, the last one of Spark is the one of the updates of Spark. -/
theorem last_told_of_updates (events : List Event) (key : String) :
    lastTold (· == ·) (events.flatMap (·.content.properties)) (.spark, key) =
      (lastTold (· == ·) (sparkUpdates events).flatten key).map fun value =>
        { source := PropertySource.spark.name, key, value := value.render } := by
  induction events with
  | nil => rfl
  | cons event rest ih =>
      have hflatten : (sparkUpdates (event :: rest)).flatten =
          event.content.spark?.getD [] ++ (sparkUpdates rest).flatten := by
        rw [sparkUpdates, List.filterMap_cons]
        cases event.content.spark? <;> rfl
      rw [List.flatMap_cons, last_told_append, ih, EventContent.last_told_properties, hflatten,
        last_told_append, Option.map_or]

/-- A property of Spark that a run records is the one that is set last. -/
theorem absorb_all_property (events : List Event) (key : String) :
    (({} : Store).absorbAll settings events).property? .spark key =
      (lastTold (· == ·) (sparkUpdates events).flatten key).map Payload.render := by
  have hproperties : (({} : Store).absorbAll settings events).properties =
      Keyed.empty.overrideBy (· == ·) (events.flatMap (·.content.properties)) :=
    absorb_all_override (·.properties) (fun _ _ => rfl) {} events
  rw [property?, hproperties, Keyed.find?, Keyed.find_by_overridden beq_equivalence,
    last_told_of_updates, Option.map_map]
  rfl

/-- Where the last update sets all that updates before it set of a property, the property that is
recorded is its own. -/
theorem absorb_all_property_last {events : List Event} {last : Fields}
    (hlast : (sparkUpdates events).getLast? = some last) (hkeys : (last.map Prod.fst).Nodup)
    {key : String}
    (hset : ∀ update ∈ sparkUpdates events, update.has key = true → last.has key = true) :
    (({} : Store).absorbAll settings events).property? .spark key =
      (last.get? key).map Payload.render := by
  obtain ⟨before, hupdates⟩ := List.getLast?_eq_some_iff.mp hlast
  have htold : lastTold (· == ·) (sparkUpdates events).flatten key = last.get? key := by
    rw [hupdates, List.flatten_append, List.flatten_singleton, last_told_append,
      Fields.last_told_eq hkeys]
    cases hfound : last.get? key with
    | some value => rfl
    | none =>
        -- No update sets the property, as the last one does not.
        rw [Option.none_or, ← Option.not_isSome_iff_eq_none, last_told_is_some]
        intro htold
        obtain ⟨entry, hentry, hkey⟩ := List.any_eq_true.mp htold
        obtain ⟨update, hupdate, hmem⟩ := List.mem_flatten.mp hentry
        have hhas := hset update (hupdates ▸ List.mem_append_left [last] hupdate)
          ((Fields.has_eq_any update key).trans (List.any_eq_true.mpr ⟨entry, hmem, hkey⟩))
        rw [Fields.has, hfound] at hhas
        cases hhas
  rw [absorb_all_property, htold]

end Store

namespace Intake

variable {settings : Settings}

/-- A run that is not interrupted is accelerated exactly if the properties of Spark of its last
update of the environment say so. They are the properties that are recorded, if the last update
sets what updates before it set of the two that decide, and none of its properties twice. -/
theorem records_accelerated (hlenient : settings.strict = false) {items : List Payload}
    (hcomplete : (records settings {} items).2 = none) {last : Fields}
    (hlast : (sparkUpdates (items.filterMap readEvent?)).getLast? = some last) :
    let store := (records settings {} items).1.store
    (store.accelerated = true ↔
        settings.Accelerates (last.textD "spark.plugins" "")
          (last.textD settings.acceleratorSwitch "true")) ∧
      ((last.map Prod.fst).Nodup →
        (∀ key ∈ settings.acceleratorKeys, ∀ update ∈ sparkUpdates (items.filterMap readEvent?),
          update.has key = true → last.has key = true) →
        (store.accelerated = true ↔
          settings.Accelerates ((store.property? .spark "spark.plugins").getD "")
            ((store.property? .spark settings.acceleratorSwitch).getD "true"))) := by
  intro store
  have hstore : store = ({} : Store).absorbAll settings (items.filterMap readEvent?) :=
    records_store_eq hlenient hcomplete
  have hdecides : store.accelerated = true ↔
      settings.Accelerates (last.textD "spark.plugins" "")
        (last.textD settings.acceleratorSwitch "true") := by
    rw [hstore, Store.absorb_all_accelerated hlast, Store.is_accelerated_iff]
  refine ⟨hdecides, fun hkeys hset => ?_⟩
  have hproperty {key : String} (hkey : key ∈ settings.acceleratorKeys) (default : String) :
      (store.property? .spark key).getD default = last.textD key default := by
    rw [hstore, Store.absorb_all_property_last hlast hkeys (hset key hkey)]
    rfl
  rw [hproperty List.mem_cons_self, hproperty (List.mem_cons_of_mem _ List.mem_cons_self)]
  exact hdecides

/-- An update of the environment that sets properties of Spark. -/
def sparkUpdate (spark : List (String × String)) : Payload :=
  .object
    [ ("Event", .text "SparkListenerEnvironmentUpdate"),
      ("Spark Properties", .object (spark.map fun (key, value) => (key, .text value))) ]

/-- A log whose plugin is named by every update, and turned off by the one in between. -/
def switchedLog : List Payload :=
  [ sparkUpdate [("spark.plugins", "com.nvidia.spark.SQLPlugin"), ("spark.master", "yarn")],
    sparkUpdate [("spark.plugins", "com.nvidia.spark.SQLPlugin"),
      ("spark.rapids.sql.enabled", " False ")],
    sparkUpdate [("spark.rapids.sql.enabled", "TRUE"),
      ("spark.plugins", "other,com.nvidia.spark.SQLPlugin")] ]

/-- The log is accelerated, as its last update and the recorded properties say. Without that update
it is not, as the switch is recorded to be off. -/
theorem records_accelerated_switched :
    let store := (records {} {} switchedLog).1.store
    let before := (records {} {} (switchedLog.take 2)).1.store
    let recorded := fun store : Store =>
      ({} : Settings).Accelerates ((store.property? .spark "spark.plugins").getD "")
        ((store.property? .spark "spark.rapids.sql.enabled").getD "true")
    (store.accelerated = true ∧ recorded store) ∧
      before.accelerated = false ∧ ¬ recorded before := by
  constructor
  · have hcomplete : (records {} {} switchedLog).2 = none := by decide +kernel
    have hlast : (sparkUpdates (switchedLog.filterMap readEvent?)).getLast? =
        some [("spark.rapids.sql.enabled", .text "TRUE"),
          ("spark.plugins", .text "other,com.nvidia.spark.SQLPlugin")] := by
      decide +kernel
    obtain ⟨hdecides, hagrees⟩ := records_accelerated rfl hcomplete hlast
    have haccelerated := hdecides.mpr (by decide +kernel)
    exact ⟨haccelerated, (hagrees (by decide) (by decide +kernel)).mp haccelerated⟩
  · have hcomplete : (records {} {} (switchedLog.take 2)).2 = none := by decide +kernel
    have hlast : (sparkUpdates ((switchedLog.take 2).filterMap readEvent?)).getLast? =
        some [("spark.plugins", .text "com.nvidia.spark.SQLPlugin"),
          ("spark.rapids.sql.enabled", .text " False ")] := by
      decide +kernel
    obtain ⟨hdecides, hagrees⟩ := records_accelerated rfl hcomplete hlast
    have hoff := mt hdecides.mp (by decide +kernel)
    exact ⟨Bool.eq_false_iff.mpr hoff, mt (hagrees (by decide) (by decide +kernel)).mpr hoff⟩

/-- Properties stay that a later update does not set, but that update decides alone. A plugin that
only the first of two updates names is recorded, and the run is not accelerated. -/
theorem records_accelerated_unplugged :
    let log := [sparkUpdate [("spark.plugins", "com.nvidia.spark.SQLPlugin")],
      sparkUpdate [("spark.master", "yarn")]]
    let store := (records {} {} log).1.store
    (records {} {} log).2 = none ∧ (sparkUpdates (log.filterMap readEvent?)).length = 2 ∧
      store.accelerated = false ∧
      ({} : Settings).Accelerates ((store.property? .spark "spark.plugins").getD "")
        ((store.property? .spark "spark.rapids.sql.enabled").getD "true") := by
  decide +kernel

end Intake

end SparkLog
