import SparkLog.Proofs.Derivation.Repetition
import SparkLog.Proofs.Ingestion.Growth
import SparkLog.Proofs.Metrics.Groups

/-!
# The largest value of every accumulator

The table of largest values has under every query and accumulator the largest value that is reported
for them (`Store.find_largest_value_iff`): by an update of the driver, or by a task or a stage
attempt, for every recorded query with a job that lists the stage (`Store.Reports`). A session adds
to what is reported while it takes events in, so that no key is lost and no value falls
(`Session.run_largest_values`).
-/

namespace SparkLog

/-! ## Offers -/

/-- The largest of some values and one more is the largest of them if that is greater. -/
theorem max_concat (values : List Int) (value : Int) :
    (values ++ [value]).max? = some (values.max?.elim value (max · value)) := by
  cases values with
  | nil => rfl
  | cons first rest =>
      rw [List.cons_append, List.max?_cons', List.max?_cons', List.foldl_append]
      rfl

namespace Store

/-- A table of offers. -/
def offered (offers : List ((Int × Int) × Int)) : Keyed (Int × Int) Int :=
  offers.foldl (fun table offered => offer table offered.1 offered.2) .empty

/-- What is found in a table of offers is the largest offer under a key. -/
theorem find_offered (offers : List ((Int × Int) × Int)) (key : Int × Int) :
    (offered offers).find? key = (itemsOf offers key).max? := by
  induction offers using List.reverseRecOn with
  | nil => rfl
  | append_singleton before offered ih =>
      rw [Store.offered, List.foldl_append, List.foldl_cons, List.foldl_nil, find_offer]
      rw [Store.offered] at ih
      by_cases hkey : offered.1 = key
      · subst hkey
        simp [ih, itemsOf, max_concat]
      · simp [ih, itemsOf, hkey]

/-- The keys of a table of offers are apart. -/
theorem offered_apart (offers : List ((Int × Int) × Int)) :
    (offered offers).Apart (· == ·) := by
  induction offers using List.reverseRecOn with
  | nil => exact .nil
  | append_singleton before offered ih =>
      rw [Store.offered, List.foldl_append, List.foldl_cons, List.foldl_nil, offer]
      split
      · split
        · exact ih.insert_by _ _
        · exact ih
      · exact ih.insert_by _ _

/-! ## Reports -/

/-- A value of an accumulator is reported for a query. -/
inductive Reports (store : Store) (query accumulator value : Int) : Prop
  /-- An update of the driver reports it. -/
  | driver (hmem : ⟨query, accumulator, value⟩ ∈ store.driverUpdates)
  /-- A task or a stage attempt reports it, of a stage that a job of the recorded query lists. -/
  | stage {accumulable : Accumulable} {job : Job} (hmem : accumulable ∈ store.accumulables)
    (haccumulator : accumulable.accumulator = accumulator) (hvalue : accumulable.value = some value)
    (hjob : job ∈ store.jobs.values) (hlists : accumulable.stage ∈ job.stages)
    (hquery : job.query = some query) (hrecorded : store.queries.has query = true)

/-- An accumulator is mentioned for a query: by an update of the driver, or by a task or a stage
attempt of a stage that a job of the recorded query lists. -/
def Mentions (store : Store) (query accumulator : Int) : Prop :=
  (∃ update ∈ store.driverUpdates, update.query = query ∧ update.accumulator = accumulator) ∨
    store.queries.has query = true ∧ ∃ accumulable ∈ store.accumulables,
      accumulable.accumulator = accumulator ∧
        ∃ job ∈ store.jobs.values, accumulable.stage ∈ job.stages ∧ job.query = some query

variable {store later : Store} {query accumulator value : Int}

/-- The queries of a stage are those of the jobs that list it. -/
theorem queries_of_stage (store : Store) (stage : Int) :
    (store.queriesOfStages.find? stage).getD [] =
      store.queriesOfJobs (itemsOf store.listings stage) := by
  have hentries : store.queriesOfStages.entries =
      ((grouped store.listings).keys.map fun stage =>
        (stage, store.queriesOfJobs (itemsOf store.listings stage))).filter
          fun entry => !entry.2.isEmpty := by
    rw [queriesOfStages, jobs_of_stages_eq, grouped_entries, List.map_map]
    rfl
  cases hfound : store.queriesOfStages.find? stage with
  | some queries =>
      obtain ⟨entry, hmem, hkey, rfl⟩ := Keyed.mem_of_find_by hfound
      rw [hentries] at hmem
      obtain ⟨other, -, rfl⟩ := List.mem_map.mp (List.mem_filter.mp hmem).1
      rw [Option.getD_some, ← eq_of_beq hkey]
  | none =>
      -- A stage with a query is listed by a job, and would have been found.
      by_contra hqueries
      obtain ⟨query, hquery⟩ := List.exists_mem_of_ne_nil _ (Ne.symm hqueries)
      obtain ⟨id, hid, -⟩ := List.mem_filterMap.mp (mem_distinct.mp hquery)
      have hstage : stage ∈ (grouped store.listings).keys :=
        mem_keys_grouped.mpr ⟨(stage, id), mem_items_of.mp hid, rfl⟩
      have hmem : (stage, store.queriesOfJobs (itemsOf store.listings stage)) ∈
          store.queriesOfStages.entries := by
        rw [hentries]
        exact List.mem_filter.mpr ⟨List.mem_map_of_mem hstage, by simpa using Ne.symm hqueries⟩
      have hother := Keyed.find_by_eq_none_iff.mp hfound _ hmem
      rw [beq_self_eq_true] at hother
      cases hother

/-- What is offered under a query and an accumulator is what is reported for them. -/
theorem mem_offers_iff (h : store.Listed) :
    ((query, accumulator), value) ∈
        driverOffers store.driverUpdates ++ store.reportedOffers store.accumulables ↔
      store.Reports query accumulator value := by
  rw [List.mem_append, driverOffers, reportedOffers, List.mem_map, List.mem_flatMap]
  constructor
  · rintro (⟨update, hmem, hoffer⟩ | ⟨accumulable, hmem, hoffer⟩)
    · cases hoffer
      exact .driver hmem
    · cases hvalue : accumulable.value with
      | none => simp [hvalue] at hoffer
      | some reported =>
          simp only [hvalue, queries_of_stage, List.mem_map, List.mem_filter] at hoffer
          obtain ⟨other, ⟨hquery, hrecorded⟩, hoffer⟩ := hoffer
          cases hoffer
          obtain ⟨job, hjob, hlists, hquery⟩ := (mem_queries_of_listings h).mp hquery
          exact .stage hmem rfl hvalue hjob hlists hquery hrecorded
  · rintro (hmem | ⟨hmem, rfl, hvalue, hjob, hlists, hquery, hrecorded⟩)
    · exact .inl ⟨_, hmem, rfl⟩
    · refine .inr ⟨_, hmem, ?_⟩
      simp only [hvalue, queries_of_stage, List.mem_map, List.mem_filter]
      exact ⟨query, ⟨(mem_queries_of_listings h).mpr ⟨_, hjob, hlists, hquery⟩, hrecorded⟩, rfl⟩

/-- The largest value under a query and an accumulator is the largest one that is reported for
them. -/
theorem find_largest_value_iff (h : store.Listed) :
    store.largestValues.find? (query, accumulator) = some value ↔
      store.Reports query accumulator value ∧
        ∀ other, store.Reports query accumulator other → other ≤ value := by
  rw [largest_values_eq, ← offered, find_offered, List.max?_eq_some_iff]
  simp only [mem_items_of, mem_offers_iff h]

/-- There is a largest value under a query and an accumulator exactly if some value is reported. -/
theorem has_largest_value_iff (h : store.Listed) :
    store.largestValues.has (query, accumulator) = true ↔
      ∃ value, store.Reports query accumulator value := by
  rw [Keyed.has, largest_values_eq, ← offered, find_offered, List.isSome_max?_iff, ne_eq,
    List.eq_nil_iff_forall_not_mem, not_forall_not]
  simp only [mem_items_of, mem_offers_iff h]

/-! ## Sessions -/

/-- What is reported stays reported while a store grows. -/
theorem Reports.grows (h : store.Reports query accumulator value) (hgrows : store.GrowsInto later) :
    later.Reports query accumulator value := by
  cases h with
  | driver hmem => exact .driver (hgrows.driverUpdates.subset hmem)
  | stage hmem haccumulator hvalue hjob hlists hquery hrecorded =>
      have hstays : later.queries.has query = true := by
        obtain ⟨entry, hentry, hkey⟩ := Keyed.find_by_is_some_iff.mp hrecorded
        exact Keyed.find_by_is_some_iff.mpr ⟨entry, hgrows.queries.subset hentry, hkey⟩
      exact .stage (hgrows.accumulables.subset hmem) haccumulator hvalue
        (List.map_subset Prod.snd hgrows.jobs.subset hjob) hlists hquery hstays

/-- All accumulables have a value. -/
def Measured (store : Store) : Prop :=
  ∀ accumulable ∈ store.accumulables, accumulable.value.isSome = true

end Store

/-- An accumulable that is read from an entry has a value. -/
theorem value_of_accumulable {stage attempt task entry : Payload} {accumulable : Accumulable}
    (h : accumulable? stage attempt task entry = .ok (some accumulable)) :
    accumulable.value.isSome = true := by
  obtain ⟨fields, -, h⟩ := bind_eq_ok_iff.mp h
  obtain ⟨value, -, h⟩ := bind_eq_ok_iff.mp h
  split at h
  · cases pure_eq_ok_iff.mp h
  · cases pure_eq_ok_iff.mp h
  · obtain ⟨read, hread, hsome⟩ := map_eq_ok_iff.mp h
    obtain rfl := Option.some.inj hsome
    simp only [Schema.accept_eq_ok_iff, Checked.seq_eq_ok_iff, Checked.map_eq_ok_iff] at hread
    obtain ⟨_, ⟨_, ⟨_, ⟨_, ⟨_, ⟨_, -, rfl⟩, _, -, rfl⟩, _, -, rfl⟩, _, -, rfl⟩, _, -, rfl⟩, _,
      hvalue, rfl⟩ := hread
    cases hvalue
    rfl

/-- All accumulables that are read from entries have a value. -/
theorem value_of_accumulables {stage attempt task entries : Payload} {found : List Accumulable}
    (h : accumulables stage attempt task entries = .ok found) :
    ∀ accumulable ∈ found, accumulable.value.isSome = true := by
  unfold accumulables at h
  split at h
  · obtain ⟨items, -, h⟩ := bind_eq_ok_iff.mp h
    obtain ⟨read, hread, h⟩ := bind_eq_ok_iff.mp h
    obtain rfl := pure_eq_ok_iff.mp h
    intro accumulable hmem
    obtain ⟨found, hfound, hsome⟩ := List.mem_filterMap.mp hmem
    obtain ⟨item, -, hitem⟩ := exists_of_paired (paired_of_map_m hread) hfound
    obtain rfl : found = some accumulable := hsome
    exact value_of_accumulable hitem
  · obtain rfl := pure_eq_ok_iff.mp h
    simp

/-- All accumulables that an event reports have a value. -/
theorem EventContent.value_of_reported {content : EventContent} {found : List Accumulable}
    (h : content.reported? = some (.ok found)) :
    ∀ accumulable ∈ found, accumulable.value.isSome = true := by
  cases content with
  | stageCompleted info =>
      obtain ⟨key, -, hread⟩ := Option.map_eq_some_iff.mp h
      exact value_of_accumulables hread
  | taskEnd => exact value_of_accumulables (Option.some.inj h)
  | _ => cases h

namespace Store

variable {store : Store} {query accumulator : Int}

/-- Every event keeps the accumulables of a store measured. -/
theorem apply_measured (settings : Settings) (store : Store) (event : Event) (h : store.Measured) :
    (store.apply settings event).1.Measured := by
  obtain ⟨hsame, -⟩ | ⟨-, -, hmore⟩ := @tasks_entered settings store event
  · rw [Measured, hsame.accumulables]
    exact h
  · obtain ⟨reported, htold, hafter⟩ := hmore.accumulables
    rw [Measured, hafter]
    intro accumulable hmem
    obtain hmem | hmem := List.mem_append.mp hmem
    · exact h accumulable hmem
    · obtain ⟨found, hfound, hmem⟩ := List.mem_flatten.mp hmem
      have htells : .ok found ∈ event.content.reported?.toList :=
        htold ▸ List.mem_map_of_mem hfound
      exact EventContent.value_of_reported (Option.mem_toList.mp htells) accumulable hmem

/-- An accumulator is mentioned exactly if some value of it is reported. -/
theorem Measured.mentions_iff (h : store.Measured) :
    store.Mentions query accumulator ↔ ∃ value, store.Reports query accumulator value := by
  constructor
  · rintro (⟨update, hmem, rfl, rfl⟩ | ⟨hrecorded, accumulable, hmem, haccumulator, job, hjob,
      hlists, hquery⟩)
    · exact ⟨update.value, .driver hmem⟩
    · obtain ⟨value, hvalue⟩ := Option.isSome_iff_exists.mp (h accumulable hmem)
      exact ⟨value, .stage hmem haccumulator hvalue hjob hlists hquery hrecorded⟩
  · rintro ⟨value, hmem | ⟨hmem, haccumulator, -, hjob, hlists, hquery, hrecorded⟩⟩
    · exact .inl ⟨_, hmem, rfl, rfl⟩
    · exact .inr ⟨hrecorded, _, hmem, haccumulator, _, hjob, hlists, hquery⟩

end Store

namespace Session

/-- A session keeps the accumulables of its store measured. -/
theorem run_measured {session : Session} (h : session.store.Measured) (steps : List SessionStep) :
    (session.run steps).1.store.Measured := by
  refine run_store_invariant Store.apply_measured
    (fun _ h => Store.correlate_keeps fun _ _ _ _ => h) (fun store h => ?_) (fun _ h => h) h steps
  rw [Store.analyze_eq]
  exact h

/-- Whatever a session has come to, its table of largest values is exact: no key is there twice, a
key is there exactly if its accumulator is mentioned for its query, and the value under it is the
largest one that is reported. Taking more events in, none of which need to succeed, removes no key
and lowers no value. -/
theorem run_largest_values (index : Int) (settings : Settings) (steps : List SessionStep)
    {later : List SessionStep} (hlater : ∀ step ∈ later, step.ingests = true) :
    let session := (({ index, settings } : Session).run steps).1
    let store := session.store
    store.largestValues.keys.Nodup ∧
      (∀ query accumulator, (query, accumulator) ∈ store.largestValues.keys ↔
        store.Mentions query accumulator) ∧
      (∀ query accumulator value,
        store.largestValues.find? (query, accumulator) = some value ↔
          store.Reports query accumulator value ∧
            ∀ other, store.Reports query accumulator other → other ≤ value) ∧
      ∀ key value, store.largestValues.find? key = some value →
        ∃ greater, (session.run later).1.store.largestValues.find? key = some greater ∧
          value ≤ greater := by
  intro session store
  have hempty : ({ index, settings } : Session).store.Listed := Store.listed_empty
  have hnone : ({ index, settings } : Session).store.Measured := nofun
  have hlisted : store.Listed := run_listed hempty steps
  have hmeasured : store.Measured := run_measured hnone steps
  refine ⟨?_, fun query accumulator => ?_, fun query accumulator value =>
    Store.find_largest_value_iff hlisted, fun key value hfound => ?_⟩
  · rw [Store.largest_values_eq]
    exact (Store.offered_apart _).nodup
  · rw [Keyed.mem_keys_iff, Store.has_largest_value_iff hlisted, hmeasured.mentions_iff]
  · obtain ⟨query, accumulator⟩ := key
    have hgrows : store.GrowsInto (session.run later).1.store := session.run_grows_into hlater
    have hlaterListed : (session.run later).1.store.Listed := run_listed hlisted later
    obtain ⟨hreports, -⟩ := (Store.find_largest_value_iff hlisted).mp hfound
    have hstays := hreports.grows hgrows
    obtain ⟨greater, hgreater⟩ := Option.isSome_iff_exists.mp
      ((Store.has_largest_value_iff hlaterListed).mpr ⟨value, hstays⟩)
    exact ⟨greater, hgreater,
      ((Store.find_largest_value_iff hlaterListed).mp hgreater).2 value hstays⟩

/-- A query is started. -/
def queryStarted (query : Int) : SessionStep :=
  .record (.object
    [ ("Event", .text "SparkListenerSQLExecutionStart"), ("executionId", .int query),
      ("time", .int 10), ("sparkPlanInfo", .object [("nodeName", .text "Project")]) ])

/-- A job lists stages, for a query or for none. -/
def jobListed (id : Int) (stages : List Int) (query : Payload) : SessionStep :=
  .record (.object
    [ ("Event", .text "SparkListenerJobStart"), ("Job ID", .int id),
      ("Stage IDs", .list (stages.map .int)),
      ("Properties", .object [("spark.sql.execution.id", query)]) ])

/-- A stage attempt completes and reports a value of accumulator 7. -/
def stageReported (stage : Int) (value : Payload) : SessionStep :=
  .record (.object
    [ ("Event", .text "SparkListenerStageCompleted"),
      ("Stage Info", .object
        [ ("Stage ID", .int stage), ("Stage Attempt ID", .int 0),
          ("Accumulables", .list [.object [("ID", .int 7), ("Value", value)]]) ]) ])

/-- The driver updates an accumulator of a query. -/
def driverUpdated (query accumulator value : Int) : SessionStep :=
  .record (.object
    [ ("Event", .text "SparkListenerDriverAccumUpdates"), ("executionId", .int query),
      ("accumUpdates", .list [.list [.int accumulator, .int value]]) ])

/-- A stage is shared by a job of query 3, one of no query, and one of query 8, which is not
recorded. The driver updates accumulators of query 3 and of one that is not recorded. -/
def sharedStage : List SessionStep :=
  [ queryStarted 3, jobListed 1 [1, 2] (.int 3), jobListed 2 [2] .null, jobListed 3 [2, 4] (.int 8),
    stageReported 2 (.text " -5 "), stageReported 2 (.int 0), stageReported 5 (.int 80),
    driverUpdated 9 1 (-2), driverUpdated 3 7 (-9), .correlate, .analyze, .finalize ]

/-- Query 8 is started after all, the shared stage reports more, and the driver reports less. -/
def reportedLater : List SessionStep :=
  [queryStarted 8, stageReported 2 (.int 4), driverUpdated 9 1 (-6), queryStarted 3]

/-- The shared stage reports for the recorded query alone at first, and for both in the end. The
greater of what it and the driver report counts, and it does not fall. -/
theorem run_largest_values_shared :
    let session := (run {} sharedStage).1
    let later := (session.run reportedLater).1
    (∀ step ∈ reportedLater, step.ingests = true) ∧
      session.store.largestValues.entries = [((9, 1), -2), ((3, 7), 0)] ∧
      session.store.Mentions 3 7 ∧ ¬ session.store.Mentions 8 7 ∧
      (session.store.Reports 3 7 0 ∧ ∀ other, session.store.Reports 3 7 other → other ≤ 0) ∧
      later.store.largestValues.entries = [((9, 1), -2), ((3, 7), 4), ((8, 7), 4)] ∧
      ∃ greater, later.store.largestValues.find? (3, 7) = some greater ∧ 0 ≤ greater := by
  intro session later
  have hingests : ∀ step ∈ reportedLater, step.ingests = true := by decide +kernel
  obtain ⟨-, hkeys, hfinds, hgrows⟩ := run_largest_values 1 {} sharedStage hingests
  have hentries : session.store.largestValues.entries = [((9, 1), -2), ((3, 7), 0)] := by
    decide +kernel
  have hlater : later.store.largestValues.entries = [((9, 1), -2), ((3, 7), 4), ((8, 7), 4)] := by
    decide +kernel
  have hkey (key : Int × Int) :
      key ∈ session.store.largestValues.keys ↔ key ∈ [((9 : Int), (1 : Int)), (3, 7)] := by
    rw [Keyed.keys, hentries]
    rfl
  have hfound : session.store.largestValues.find? (3, 7) = some 0 := by
    rw [Keyed.find?, Keyed.findBy?, hentries]
    rfl
  exact ⟨hingests, hentries, (hkeys 3 7).mp ((hkey _).mpr (by decide)),
    fun hmentions => absurd ((hkey _).mp ((hkeys 8 7).mpr hmentions)) (by decide),
    (hfinds 3 7 0).mp hfound, hlater, hgrows (3, 7) 0 hfound⟩

end Session

end SparkLog
