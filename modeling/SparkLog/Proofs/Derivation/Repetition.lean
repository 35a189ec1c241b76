import SparkLog.Store.Index
import SparkLog.Proofs.Distinct
import SparkLog.Proofs.Derivation.Analysis
import SparkLog.Proofs.Derivation.Correlation

/-!
# Repeated records

Six lists of a store only grow. If all that is appended to them is there already (`Repeats.Within`),
nothing else that is derived from the store changes: pairing starts with ends does not read these
lists, a metric that is declared twice counts once (`analyze_append`), and a value that is offered
twice to a table of largest values is offered once too often (`largest_values_append`).
-/

namespace SparkLog

/-- What may be appended to the lists of a store that only grow. -/
structure Repeats where
  executorRemovals : List ExecutorRemoval
  blockManagerRemovals : List BlockManagerRemoval
  adaptiveMetrics : List QueryMetric
  driverUpdates : List DriverUpdate
  accumulables : List Accumulable
  others : List Event

/-- All that is appended is in the store already. -/
structure Repeats.Within (repeats : Repeats) (store : Store) : Prop where
  executorRemovals : repeats.executorRemovals ⊆ store.executorRemovals
  blockManagerRemovals : repeats.blockManagerRemovals ⊆ store.blockManagerRemovals
  adaptiveMetrics : repeats.adaptiveMetrics ⊆ store.adaptiveMetrics
  driverUpdates : repeats.driverUpdates ⊆ store.driverUpdates
  accumulables : repeats.accumulables ⊆ store.accumulables
  others : repeats.others ⊆ store.others

/-- What is in a store is in what is derived from it. -/
theorem Repeats.Within.derived {store derived : Store} {repeats : Repeats}
    (h : repeats.Within store) (hderive : store.derive = .ok derived) : repeats.Within derived := by
  obtain ⟨-, rfl⟩ := Store.derive_eq_ok_iff.mp hderive
  have hlists : repeats.Within store.closed.analyze := by
    rw [Store.analyze_eq]
    exact { h with }
  exact { hlists with }

namespace Store

/-- A store with records appended to the lists that only grow. -/
def append (store : Store) (repeats : Repeats) : Store :=
  { store with
    executorRemovals := store.executorRemovals ++ repeats.executorRemovals
    blockManagerRemovals := store.blockManagerRemovals ++ repeats.blockManagerRemovals
    adaptiveMetrics := store.adaptiveMetrics ++ repeats.adaptiveMetrics
    driverUpdates := store.driverUpdates ++ repeats.driverUpdates
    accumulables := store.accumulables ++ repeats.accumulables
    others := store.others ++ repeats.others }

variable {store : Store} {repeats : Repeats}

/-! ## Correlation and analysis -/

/-- What has an end in a store has it whatever is appended. -/
theorem Closes.append (h : store.Closes) (repeats : Repeats) : (store.append repeats).Closes :=
  ⟨h.jobs, h.stages, h.queries, h.application⟩

/-- What is closed is closed in the same way whatever is appended. -/
theorem closed_append : (store.append repeats).closed = store.closed.append repeats := rfl

/-- Metrics that were declared again while queries ran change nothing. -/
theorem with_adaptive_append {metrics adaptive again : List QueryMetric} (h : again ⊆ adaptive) :
    withAdaptive metrics (adaptive ++ again) = withAdaptive metrics adaptive := by
  cases adaptive with
  | nil => rw [List.subset_nil.mp h, List.append_nil]
  | cons first rest =>
      have hagain : again ⊆ metrics ++ first :: rest :=
        List.Subset.trans h (List.subset_append_right _ _)
      simpa [withAdaptive] using distinct_append hagain

/-- An analysis finds the same whatever is appended that was there before. -/
theorem analyze_append (h : repeats.adaptiveMetrics ⊆ store.adaptiveMetrics) :
    (store.append repeats).analyze = store.analyze.append repeats := by
  simp only [analyze_eq]
  simp [append, mark, with_adaptive_append h]

/-- What is derived from a store is the same whatever is appended that was there before. -/
theorem derive_append {derived : Store} (hderive : store.derive = .ok derived)
    (h : repeats.adaptiveMetrics ⊆ store.adaptiveMetrics) :
    (store.append repeats).derive = .ok (derived.append repeats) := by
  obtain ⟨hcloses, rfl⟩ := derive_eq_ok_iff.mp hderive
  refine derive_eq_ok_iff.mpr ⟨hcloses.append repeats, ?_⟩
  have hclosed : repeats.adaptiveMetrics ⊆ store.closed.adaptiveMetrics := h
  rw [closed_append, analyze_append hclosed]
  rfl

/-! ## Largest values -/

/-- After an offer, the greater of the value and the one that was there is found under its key. -/
theorem find_offer (table : Keyed (Int × Int) Int) (key other : Int × Int) (value : Int) :
    (offer table key value).find? other =
      if key == other then some ((table.find? key).elim value (max · value))
      else table.find? other := by
  unfold offer
  cases hfound : table.find? key with
  | none => exact Keyed.find_insert table key other value
  | some largest =>
      by_cases hlt : largest < value
      · have hmax : max largest value = value := by omega
        simp only [hlt, if_true, Option.elim_some, Keyed.find_insert, hmax]
      · have hmax : max largest value = largest := by omega
        by_cases hkey : key = other
        · simp [hlt, ← hkey, hfound, hmax]
        · simp [hlt, hkey]

/-- A table has a value under a key that is no smaller. -/
def Offered (table : Keyed (Int × Int) Int) (offered : (Int × Int) × Int) : Prop :=
  ∃ largest, table.find? offered.1 = some largest ∧ offered.2 ≤ largest

/-- Offering a value settles it. -/
theorem settles_offer : Settles (fun table offered => offer table offered.1 offered.2) Offered where
  own := by
    rintro table ⟨key, value⟩
    refine ⟨_, by rw [find_offer, if_pos (beq_self_eq_true key)], ?_⟩
    cases table.find? key with
    | none => exact Int.le_refl value
    | some largest => exact Int.le_max_right largest value
  stays := by
    rintro table ⟨key, value⟩ ⟨other, offered⟩ ⟨largest, hfound, hle⟩
    by_cases hkey : key = other
    · subst hkey
      refine ⟨_, by rw [find_offer, if_pos (beq_self_eq_true key)], ?_⟩
      rw [hfound]
      exact Int.le_trans hle (Int.le_max_left largest value)
    · exact ⟨largest, by rw [find_offer, if_neg (by simpa using hkey), hfound], hle⟩
  idle := by
    rintro table ⟨key, value⟩ ⟨largest, hfound, hle⟩
    simp only [offer, hfound]
    exact if_neg (Int.not_lt.mpr hle)

/-- The values that the updates of the driver offer. -/
def driverOffers (updates : List DriverUpdate) : List ((Int × Int) × Int) :=
  updates.map fun update => ((update.query, update.accumulator), update.value)

/-- The values that accumulables offer, for every query that they belong to. -/
def reportedOffers (store : Store) (reported : List Accumulable) : List ((Int × Int) × Int) :=
  reported.flatMap fun accumulable =>
    match accumulable.value with
    | none => []
    | some value =>
      (((store.queriesOfStages.find? accumulable.stage).getD []).filter store.queries.has).map
        fun query => ((query, accumulable.accumulator), value)

/-- The largest values are those of all offers. -/
theorem largest_values_eq : store.largestValues =
    (driverOffers store.driverUpdates ++ store.reportedOffers store.accumulables).foldl
      (fun table offered => offer table offered.1 offered.2) .empty := by
  rw [List.foldl_append, driverOffers, List.foldl_map, reportedOffers, List.foldl_flatMap]
  refine congrArg (fun step => List.foldl step _ store.accumulables) ?_
  funext table accumulable
  cases accumulable.value with
  | none => rfl
  | some value => rw [List.foldl_map]

/-- The largest values are the same whatever is appended that was there before. -/
theorem largest_values_append (h : repeats.Within store) :
    (store.append repeats).largestValues = store.largestValues := by
  have hdriver : driverOffers repeats.driverUpdates ⊆ driverOffers store.driverUpdates :=
    List.map_subset _ h.driverUpdates
  have hreported :
      store.reportedOffers repeats.accumulables ⊆ store.reportedOffers store.accumulables := by
    intro offered hmem
    obtain ⟨accumulable, haccumulable, hoffered⟩ := List.mem_flatMap.mp hmem
    exact List.mem_flatMap.mpr ⟨accumulable, h.accumulables haccumulable, hoffered⟩
  have hoffers : driverOffers (store.append repeats).driverUpdates ++
      (store.append repeats).reportedOffers (store.append repeats).accumulables =
        (driverOffers store.driverUpdates ++ driverOffers repeats.driverUpdates) ++
          (store.reportedOffers store.accumulables ++
            store.reportedOffers repeats.accumulables) := by
    simp only [driverOffers, reportedOffers, append, List.map_append, List.flatMap_append]
    rfl
  rw [largest_values_eq, largest_values_eq, hoffers, List.foldl_append,
    settles_offer.fold_append hdriver, settles_offer.fold_append hreported, ← List.foldl_append]

end Store

end SparkLog
