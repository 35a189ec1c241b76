import SparkLog.Proofs.Listing.Columns
import SparkLog.Proofs.Metrics.Figures
import SparkLog.Proofs.Metrics.Groups
import SparkLog.Proofs.Metrics.Rows
import SparkLog.Proofs.Rearrangement.Listing

/-!
# Skewed tasks

A task is listed if it reads more than so many times the mean of its stage attempt
(`shuffle_skew_lists`). The mean is not computed for this: both sides are multiplied by the number
of tasks, and for a whole factor and sizes of moderate magnitude comparing them is exact
(`is_skewed_eq`). What the tasks above the bound read is at most what all read, so there are few of
them (`exceeding_few`). The listing goes through the stage attempts one by one, which share no task
(`listed_skew_perm`) and come in order (`listed_skew_sorted`).
-/

namespace SparkLog.Listing

open Metrics (figure)

/-- The tasks of a stage attempt among some. -/
def tasksOfAttempt (tasks : List Task) (attempt : Int × Int) : List Task :=
  tasks.filter fun task => (task.stage, task.stageAttempt) == attempt

/-- The bytes that tasks read together. -/
def bytesRead (tasks : List Task) : Int :=
  total (tasks.map fun task => task.metrics.totalBytes)

/-- Whether a task reads more than so many times the mean of some tasks, both multiplied by the
number of these. -/
def exceedsMean (factor : Int) (tasks : List Task) (task : Task) : Bool :=
  factor * bytesRead tasks < task.metrics.totalBytes * tasks.length

/-- The tasks that read more than so many times the mean of their stage attempt. -/
def skewedTasks (store : Store) (factor : Int) : List Task :=
  store.tasks.filter fun task =>
    exceedsMean factor (tasksOfAttempt store.tasks (task.stage, task.stageAttempt)) task

variable {settings : Settings} {factor : Int} {tasks : List Task}

/-! ## Counting -/

section Counting

variable (hnonneg : ∀ task ∈ tasks, 0 ≤ task.metrics.totalBytes)
include hnonneg

/-- No task reads more than all of them. -/
theorem total_bytes_le {task : Task} (hmem : task ∈ tasks) :
    task.metrics.totalBytes ≤ bytesRead tasks := by
  rw [bytesRead, total_eq_sum]
  refine List.single_le_sum (List.forall_mem_map.mpr hnonneg) _ (List.mem_map_of_mem hmem)

/-- Tasks together read no negative number of bytes. -/
theorem bytes_read_nonneg : 0 ≤ bytesRead tasks := by
  rw [bytesRead, total_eq_sum]
  exact List.sum_nonneg (List.forall_mem_map.mpr hnonneg)

/-- Some tasks read no more than all of them. -/
theorem bytes_read_filter_le (p : Task → Bool) : bytesRead (tasks.filter p) ≤ bytesRead tasks := by
  rw [bytesRead, bytesRead, total_eq_sum, total_eq_sum]
  refine List.Sublist.sum_le_sum (List.filter_sublist.map _) ?_
  exact List.forall_mem_map.mpr hnonneg

/-- Where nothing is read, no task exceeds the mean. -/
theorem exceeding_none (hzero : bytesRead tasks = 0) {task : Task} (hmem : task ∈ tasks) :
    exceedsMean factor tasks task = false := by
  have hle := total_bytes_le hnonneg hmem
  have hproduct := Int.mul_le_mul_of_nonneg_right (hle.trans_eq hzero)
    (Int.natCast_nonneg tasks.length)
  rw [exceedsMean, hzero, decide_eq_false_iff_not]
  omega

end Counting

/-- The tasks that read more than so many times the mean of all, taken that many times, are fewer
than all. -/
theorem exceeding_few (hnonneg : ∀ task ∈ tasks, 0 ≤ task.metrics.totalBytes)
    (hsome : tasks ≠ []) :
    factor * (tasks.filter (exceedsMean factor tasks)).length < tasks.length := by
  have hlength : 0 < tasks.length := List.length_pos_of_ne_nil hsome
  have hpart := bytes_read_filter_le hnonneg (exceedsMean factor tasks)
  have hexceeds : ∀ task ∈ tasks.filter (exceedsMean factor tasks),
      factor * bytesRead tasks < task.metrics.totalBytes * tasks.length := fun task hmem =>
    of_decide_eq_true (List.mem_filter.mp hmem).2
  have htotal := bytes_read_nonneg hnonneg
  generalize tasks.filter (exceedsMean factor tasks) = exceeding at hexceeds hpart ⊢
  -- Each of these tasks is above the bound by one at least; together they read no more than all.
  have hsum : exceeding.length * (factor * bytesRead tasks + 1) ≤
      bytesRead tasks * tasks.length := by
    refine le_trans ?_ (Int.mul_le_mul_of_nonneg_right hpart (Int.natCast_nonneg _))
    have hcard := List.card_nsmul_le_sum
      (exceeding.map fun task => task.metrics.totalBytes * (tasks.length : Int))
      (factor * bytesRead tasks + 1) (List.forall_mem_map.mpr hexceeds)
    rwa [List.length_map, nsmul_eq_mul, List.sum_map_mul_right, ← total_eq_sum] at hcard
  cases exceeding with
  | nil => simpa using hlength
  | cons task rest =>
      have hone : 0 < (((task :: rest).length : Nat) : Int) := by simp
      generalize ((task :: rest).length : Int) = count at hsum hone ⊢
      have hbound : factor * count * bytesRead tasks < tasks.length * bytesRead tasks := by
        linarith only [hsum, hone]
      exact lt_of_mul_lt_mul_right hbound htotal

/-! ## Comparing with the mean -/

/-- Comparing with the mean as floating-point numbers does is exact. -/
theorem is_skewed_eq (hfactor : settings.skewFactor.toInt? = some factor) (hone : 1 ≤ factor)
    (hnonneg : 0 ≤ bytesRead tasks) (hsmall : factor * bytesRead tasks < 2 ^ 53) (task : Task) :
    isSkewed settings.skewFactor tasks.length (bytesRead tasks) task =
      .ok (exceedsMean factor tasks task) := by
  have hproduct : (factor * bytesRead tasks).natAbs < 2 ^ 53 := by
    have := Int.mul_nonneg (by omega : 0 ≤ factor) hnonneg
    omega
  have hbytes : (bytesRead tasks).natAbs < 2 ^ 53 := by
    have := Int.mul_le_mul_of_nonneg_right hone hnonneg
    omega
  have hlimit := Binary64.mul_exact (Binary64.units_of_to_int hfactor)
    (Binary64.of_ratio_units hbytes) hproduct
  rw [isSkewed, Payload.to_binary64_int hbytes]
  refine congrArg Except.ok ?_
  rw [Binary64.compare_int_of_units hlimit, exceedsMean, Bool.eq_iff_iff, beq_iff_eq,
    Option.some_inj, compare_lt_iff_lt, decide_eq_true_eq]

/-! ## Sizes -/

/-- A size below two to the power 53 is shown in megabytes. -/
theorem megabytes_int_ok {bytes : Int} (h : bytes.natAbs < 2 ^ 53) :
    ∃ size, megabytes (.int bytes) = .ok size := by
  obtain ⟨negative, rank, hquotient, hunits⟩ :=
    Metrics.divide_ints_moderate h (by decide : megabyte ≠ 0)
  obtain ⟨x, hx⟩ := Decimal.round_float_some negative (hunits.trans
    (Nat.mul_le_mul_left _ (Nat.pow_le_pow_right Nat.two_pos (by decide)))) (le_refl 2)
  have hfigure : figure (Decimal.roundFloat? (.finite negative rank) 2) = .ok x := by
    rw [hx]
    rfl
  exact ⟨.float x, bind_eq_ok_iff.mpr ⟨_, hquotient, map_eq_ok_iff.mpr ⟨x, hfigure, rfl⟩⟩⟩

/-- The mean of sizes below two to the power 53 is shown in megabytes. -/
theorem megabytes_mean_ok {bytes : Int} (h : bytes.natAbs < 2 ^ 53) {count : Int}
    (hcount : count ≠ 0) : ∃ mean average, Payload.divideInts bytes count = .ok mean ∧
    megabytes (.float mean) = .ok average := by
  obtain ⟨negative, rank, hquotient, hunits⟩ := Metrics.divide_ints_moderate h hcount
  have hmoderate : Binary64.unitsOfRank rank ≤
      Binary64.unitsOfOne * 2 ^ 62 * megabyte.natAbs := by
    rw [Nat.mul_assoc]
    exact hunits.trans (Nat.mul_le_mul_left _ (by decide))
  obtain ⟨x, hx⟩ := Metrics.quotient_by_int_figure negative (by decide : megabyte ≠ 0) hmoderate
    (le_refl 2)
  refine ⟨_, .float x, hquotient, bind_eq_ok_iff.mpr ⟨_, ?_, map_eq_ok_iff.mpr ⟨x, hx, rfl⟩⟩⟩
  have hdivisor := @Payload.to_binary64_int megabyte (by decide)
  exact bind_eq_ok_iff.mpr ⟨_, rfl, bind_eq_ok_iff.mpr ⟨_, hdivisor, rfl⟩⟩

/-! ## Rows -/

/-- A row tells a task of some, its size and the mean of theirs. -/
def SkewRow (index : Int) (tasks : List Task) (task : Task) (row : List Cell) : Prop :=
  ∃ mean size average, Payload.divideInts (bytesRead tasks) tasks.length = .ok mean ∧
    megabytes (.int task.metrics.totalBytes) = .ok size ∧ megabytes (.float mean) = .ok average ∧
    row =
      [ .int index, .int task.stage, .int task.stageAttempt, .int task.id, .int task.attempt, size,
        average ]

section Rows

variable (hfactor : settings.skewFactor.toInt? = some factor) (hone : 1 ≤ factor)
  (hnonneg : ∀ task ∈ tasks, 0 ≤ task.metrics.totalBytes)
  (hsmall : factor * bytesRead tasks < 2 ^ 53)
include hfactor hone hnonneg hsmall

/-- There is a row for every task that exceeds the mean, by identifier. -/
theorem skew_rows_ok (index : Int) : ∃ rows, skewRows settings index tasks = .ok rows ∧
    List.Forall₂ (SkewRow index tasks)
      ((sortByKeys (fun task => [task.id, task.attempt]) tasks).filter (exceedsMean factor tasks))
      rows := by
  have hbytes := bytes_read_nonneg hnonneg
  have hbound : (bytesRead tasks).natAbs < 2 ^ 53 := by
    have := Int.mul_le_mul_of_nonneg_right hone hbytes
    omega
  unfold skewRows
  dsimp only
  rw [← bytesRead]
  split
  · next hzero =>
      have hnone : (sortByKeys (fun task => [task.id, task.attempt]) tasks).filter
          (exceedsMean factor tasks) = [] := by
        refine List.filter_eq_nil_iff.mpr fun task hmem => ?_
        rw [exceeding_none hnonneg hzero (List.mem_mergeSort.mp hmem)]
        exact Bool.false_ne_true
      rw [hnone]
      exact ⟨[], rfl, .nil⟩
  · next hne =>
      have hcount : (tasks.length : Int) ≠ 0 := by
        intro hzero
        obtain rfl := List.length_eq_zero_iff.mp (Int.natCast_eq_zero.mp hzero)
        exact hne rfl
      obtain ⟨mean, average, hmean, haverage⟩ := megabytes_mean_ok hbound hcount
      have hfilter (sorted : List Task) : sorted.filter (exceedsMean factor tasks) =
          sorted.flatMap fun task => [task].filter (exceedsMean factor tasks) := by
        rw [← List.filter_flatMap, List.flatMap_singleton']
      rw [hmean, hfilter]
      refine map_m_flatten_ok fun task hmem => ?_
      rw [is_skewed_eq hfactor hone hbytes hsmall]
      cases hexceeds : exceedsMean factor tasks task with
      | false =>
          refine ⟨[], rfl, ?_⟩
          rw [List.filter_cons_of_neg (Bool.not_eq_true _ ▸ hexceeds)]
          exact .nil
      | true =>
          have hle := total_bytes_le hnonneg (List.mem_mergeSort.mp hmem)
          have hpos := hnonneg task (List.mem_mergeSort.mp hmem)
          obtain ⟨size, hsize⟩ : ∃ size, megabytes (.int task.metrics.totalBytes) = .ok size :=
            megabytes_int_ok (by omega)
          rw [List.filter_cons_of_pos hexceeds]
          refine ⟨_, bind_eq_ok_iff.mpr ⟨true, rfl, bind_eq_ok_iff.mpr ⟨size, hsize, ?_⟩⟩,
            .cons ⟨mean, size, average, hmean, hsize, haverage, rfl⟩ .nil⟩
          exact bind_eq_ok_iff.mpr ⟨average, haverage, rfl⟩

end Rows

/-! ## The listing -/

/-- The tasks that are listed of a stage attempt, in the order of identifiers. -/
def listedOfAttempt (store : Store) (factor : Int) (attempt : Int × Int) : List Task :=
  (sortByKeys (fun task => [task.id, task.attempt]) (tasksOfAttempt store.tasks attempt)).filter
    (exceedsMean factor (tasksOfAttempt store.tasks attempt))

/-- The tasks that are listed, attempt by attempt. -/
def listedSkew (store : Store) (factor : Int) : List Task :=
  (attempts store).flatMap (listedOfAttempt store factor)

/-- A task of a stage attempt belongs to it. -/
theorem mem_tasks_of_attempt {attempt : Int × Int} {task : Task} :
    task ∈ tasksOfAttempt tasks attempt ↔
      task ∈ tasks ∧ (task.stage, task.stageAttempt) = attempt := by
  rw [tasksOfAttempt, List.mem_filter, beq_iff_eq]

/-- A task that is listed of a stage attempt belongs to it. -/
theorem attempt_of_listed {store : Store} {attempt : Int × Int} {task : Task}
    (h : task ∈ listedOfAttempt store factor attempt) : (task.stage, task.stageAttempt) = attempt :=
  (mem_tasks_of_attempt.mp (List.mem_mergeSort.mp (List.mem_filter.mp h).1)).2

/-- A stage attempt has tasks. -/
theorem mem_attempts {store : Store} {attempt : Int × Int} : attempt ∈ attempts store ↔
    ∃ task ∈ store.tasks, (task.stage, task.stageAttempt) = attempt := by
  rw [attempts, sortByKeys, List.mem_mergeSort, mem_keys_grouped]
  simp [attemptTasks]

/-- Stage attempts come once each, in increasing order. -/
theorem attempts_sorted (store : Store) :
    (attempts store).Pairwise fun a b => lexLe [a.1, a.2] [b.1, b.2] = true ∧ a ≠ b := by
  have hnodup : (attempts store).Nodup :=
    (List.mergeSort_perm _ _).nodup_iff.mpr (grouped_apart (attemptTasks store)).nodup
  exact (sort_by_keys_sorted _ _).and hnodup

/-- The tasks that are listed are those that exceed the mean of their stage attempt, each once. -/
theorem listed_skew_perm (store : Store) (factor : Int) :
    (listedSkew store factor).Perm (skewedTasks store factor) := by
  have hsorted : (listedSkew store factor).Perm
      ((attempts store).flatMap fun attempt => store.tasks.filter fun task =>
        (task.stage, task.stageAttempt) == attempt &&
          exceedsMean factor (tasksOfAttempt store.tasks attempt) task) := by
    refine List.Perm.flatMap_left _ fun attempt _ => ?_
    refine ((List.mergeSort_perm _ _).filter _).trans (.of_eq ?_)
    rw [tasksOfAttempt, List.filter_filter]
    exact List.filter_congr fun task _ => Bool.and_comm _ _
  refine hsorted.trans ((Metrics.filter_apart_perm ?_ store.tasks).trans (.of_eq ?_))
  · refine (attempts_sorted store).imp fun {a b} h task hof => ?_
    obtain ⟨hattempt, -⟩ := (Bool.and_eq_true _ _).mp hof
    obtain rfl := eq_of_beq hattempt
    rw [beq_false_of_ne h.2, Bool.false_and]
  · refine List.filter_congr fun task hmem => ?_
    rw [Bool.eq_iff_iff, List.any_eq_true]
    constructor
    · rintro ⟨attempt, -, hof⟩
      obtain ⟨hattempt, hexceeds⟩ := (Bool.and_eq_true _ _).mp hof
      obtain rfl := eq_of_beq hattempt
      exact hexceeds
    · intro hexceeds
      refine ⟨_, mem_attempts.mpr ⟨task, hmem, rfl⟩, ?_⟩
      rw [hexceeds, beq_self_eq_true, Bool.and_true]

/-- The tasks that are listed stand in the order of stage, attempt, and identifiers. -/
theorem listed_skew_sorted (store : Store) (factor : Int) :
    (listedSkew store factor).Pairwise fun task other =>
      lexLe [task.stage, task.stageAttempt, task.id, task.attempt]
        [other.stage, other.stageAttempt, other.id, other.attempt] = true := by
  refine List.pairwise_flatMap.mpr ⟨fun attempt _ => ?_, ?_⟩
  · refine ((sort_by_keys_sorted _ _).filter _).imp_of_mem fun {task other} htask hother hle => ?_
    obtain ⟨hstage, hattempt⟩ :=
      Prod.mk.inj ((attempt_of_listed htask).trans (attempt_of_listed hother).symm)
    rw [hstage, hattempt]
    simpa [lexLe] using hle
  · refine (attempts_sorted store).imp fun {a b} h task htask other hother => ?_
    obtain rfl := attempt_of_listed htask
    obtain rfl := attempt_of_listed hother
    obtain ⟨hle, hne⟩ := h
    simp only [lexLe, Bool.or_eq_true, Bool.and_eq_true, decide_eq_true_eq, beq_iff_eq, ne_eq,
      Prod.mk.injEq, Bool.and_true] at hle hne ⊢
    omega

/-- A row has an integer for each identifier and a floating-point number for each size. -/
theorem cells_of_skew_row {index : Int} {task : Task} {row : List Cell}
    (h : SkewRow index tasks task row) : ∃ size average, row =
      [ .int index, .int task.stage, .int task.stageAttempt, .int task.id, .int task.attempt,
        .float size, .float average ] := by
  have hfloat {bytes : Payload} {cell : Cell} (hcell : megabytes bytes = .ok cell) :
      ∃ x, cell = .float x := by
    obtain ⟨_, -, hmap⟩ := bind_eq_ok_iff.mp hcell
    obtain ⟨x, -, rfl⟩ := map_eq_ok_iff.mp hmap
    exact ⟨x, rfl⟩
  obtain ⟨mean, size, average, -, hsize, haverage, rfl⟩ := h
  obtain ⟨size, rfl⟩ := hfloat hsize
  obtain ⟨average, rfl⟩ := hfloat haverage
  exact ⟨size, average, rfl⟩

/-- A table of such rows has these rows. -/
theorem rows_of_skew_listing {columns : List String} {message : String} {rows : List (List Cell)}
    {index : Int} (hwidth : columns.length = 7)
    (hcells : ∀ row ∈ rows, ∃ task : Task, ∃ size average, row =
      [ .int index, .int task.stage, .int task.stageAttempt, .int task.id, .int task.attempt,
        .float size, .float average ]) : (Table.ofRowsOr columns message rows).rows = rows := by
  refine Table.rows_of_rows_or (fun row hrow => ?_) fun position hposition => ?_
  · obtain ⟨task, size, average, rfl⟩ := hcells row hrow
    exact hwidth.symm
  · rw [hwidth] at hposition
    match position, hposition with
    | 0, _ | 1, _ | 2, _ | 3, _ | 4, _ =>
        refine .inl fun row hrow => ?_
        obtain ⟨task, size, average, rfl⟩ := hcells row hrow
        exact ⟨_, rfl⟩
    | 5, _ | 6, _ =>
        refine .inr fun row hrow => ?_
        obtain ⟨task, size, average, rfl⟩ := hcells row hrow
        rfl

variable {store : Store}

/-- An inquiry about skew is answered from a finalized store. -/
theorem shuffle_skew_reply (hclosed : store.finalized = true) {index : Int} {tasks : List Task} :
    Inquiry.shuffleSkew.ask store settings index tasks =
      .table <$> shuffleSkew store settings index := by
  rw [Inquiry.ask, hclosed, Bool.or_true, if_pos rfl]
  rfl

/-- The row of a task tells the mean of its own stage attempt. -/
def HasSkewRow (store : Store) (index : Int) (task : Task) (row : List Cell) : Prop :=
  SkewRow index (tasksOfAttempt store.tasks (task.stage, task.stageAttempt)) task row

/-- No task reads a negative number of bytes, and so many times what a stage attempt reads is below
two to the power 53. -/
def ReadsModerately (store : Store) (factor : Int) : Prop :=
  ∀ task ∈ store.tasks, 0 ≤ task.metrics.totalBytes ∧
    factor * bytesRead (tasksOfAttempt store.tasks (task.stage, task.stageAttempt)) < 2 ^ 53

instance (store : Store) (factor : Int) : Decidable (ReadsModerately store factor) :=
  inferInstanceAs (Decidable (∀ task ∈ store.tasks, _))

section Store

variable (hreads : ReadsModerately store factor)
  (hfactor : settings.skewFactor.toInt? = some factor) (hone : 1 ≤ factor)
include hreads

/-- The tasks that are listed of a stage attempt are fewer than its tasks, even so many times
over. -/
theorem listed_skew_few {listed : List Task}
    (hlisted : listed.Perm (skewedTasks store factor)) {attempt : Int × Int}
    (hsome : tasksOfAttempt store.tasks attempt ≠ []) :
    factor * (tasksOfAttempt listed attempt).length <
      (tasksOfAttempt store.tasks attempt).length := by
  have hlength : (tasksOfAttempt listed attempt).length =
      ((tasksOfAttempt store.tasks attempt).filter
        (exceedsMean factor (tasksOfAttempt store.tasks attempt))).length := by
    refine (hlisted.filter _).length_eq.trans (congrArg List.length ?_)
    rw [skewedTasks, tasksOfAttempt, List.filter_filter, List.filter_filter]
    refine List.filter_congr fun task _ => ?_
    by_cases hattempt : (task.stage, task.stageAttempt) = attempt
    · rw [hattempt, Bool.and_comm, tasksOfAttempt]
    · rw [beq_false_of_ne hattempt, Bool.false_and, Bool.and_false]
  rw [hlength]
  exact exceeding_few (fun task hmem => (hreads task (mem_tasks_of_attempt.mp hmem).1).1) hsome

include hone in
/-- None are listed of a stage attempt of no more tasks than the factor. -/
theorem listed_skew_none {listed : List Task}
    (hlisted : listed.Perm (skewedTasks store factor)) {attempt : Int × Int}
    (hfew : (tasksOfAttempt store.tasks attempt).length ≤ factor) :
    tasksOfAttempt listed attempt = [] := by
  by_contra hsome
  obtain ⟨task, hmem⟩ := List.exists_mem_of_ne_nil _ hsome
  obtain ⟨htask, hattempt⟩ := mem_tasks_of_attempt.mp hmem
  have hstored : task ∈ tasksOfAttempt store.tasks attempt :=
    mem_tasks_of_attempt.mpr ⟨(List.mem_filter.mp (hlisted.mem_iff.mp htask)).1, hattempt⟩
  have hcount := listed_skew_few hreads hlisted (List.ne_nil_of_mem hstored)
  have hlength : (1 : Int) ≤ (tasksOfAttempt listed attempt).length := by
    have := List.length_pos_of_mem hmem
    omega
  have := Int.mul_le_mul_of_nonneg_left hlength (by omega : 0 ≤ factor)
  omega

include hfactor hone

/-- The listing is made of a row for every task that is listed. -/
theorem shuffle_skew_rows (index : Int) : ∃ rows, shuffleSkew store settings index =
      .ok (Table.ofRowsOr ["appIndex", "stageId", "stageAttemptId", "taskId", "attempt",
        "taskShuffleReadMB", "avgShuffleReadMB"] "No Shuffle Skew Found!" rows) ∧
    List.Forall₂ (HasSkewRow store index) (listedSkew store factor) rows := by
  have hattempt : ∀ attempt ∈ attempts store, ∃ rows,
      skewRows settings index (itemsOf (attemptTasks store) attempt) = .ok rows ∧
        List.Forall₂ (HasSkewRow store index) (listedOfAttempt store factor attempt) rows := by
    intro attempt hmem
    obtain ⟨task, htask, rfl⟩ := mem_attempts.mp hmem
    obtain ⟨rows, hrows, hpaired⟩ := skew_rows_ok hfactor hone
      (fun task hmem => (hreads task (mem_tasks_of_attempt.mp hmem).1).1) (hreads task htask).2
      index
    refine ⟨rows, by rw [items_of_attempt]; exact hrows, ?_⟩
    refine ((List.forall₂_and_left _ _).mpr ⟨fun _ => attempt_of_listed, hpaired⟩).imp ?_
    intro other row hrow
    rw [HasSkewRow, hrow.1]
    exact hrow.2
  obtain ⟨rows, hrows, hpaired⟩ := map_m_flatten_ok hattempt
  obtain ⟨lists, hlists, hflat⟩ := bind_eq_ok_iff.mp hrows
  obtain rfl := pure_eq_ok_iff.mp hflat
  refine ⟨lists.flatten, ?_, hpaired⟩
  rw [shuffleSkew, tasks_by_attempt_eq, List.mapM_map]
  exact congrArg (· >>= _) hlists

/-- Shuffle skew lists the tasks whose size times the number of tasks of their stage attempt is
above so many times the size of the attempt, each once and in the order of identifiers. So the tasks
listed of an attempt are fewer than its tasks, even so many times over, and none are listed of an
attempt of no more tasks than that. -/
theorem shuffle_skew_lists (hclosed : store.finalized = true) (index : Int) (tasks : List Task) :
    ∃ listed : List Task, listed.Perm (skewedTasks store factor) ∧
      (listed.Pairwise fun task other =>
        lexLe [task.stage, task.stageAttempt, task.id, task.attempt]
          [other.stage, other.stageAttempt, other.id, other.attempt] = true) ∧
      (∀ attempt,
        (tasksOfAttempt store.tasks attempt ≠ [] →
          factor * (tasksOfAttempt listed attempt).length <
            (tasksOfAttempt store.tasks attempt).length) ∧
        ((tasksOfAttempt store.tasks attempt).length ≤ factor →
          tasksOfAttempt listed attempt = [])) ∧
      ∃ table, Inquiry.shuffleSkew.ask store settings index tasks = .ok (.table table) ∧
        List.Forall₂ (HasSkewRow store index) listed table.rows := by
  have hperm := listed_skew_perm store factor
  refine ⟨listedSkew store factor, hperm, listed_skew_sorted store factor,
    fun attempt => ⟨listed_skew_few hreads hperm, listed_skew_none hreads hone hperm⟩, ?_⟩
  obtain ⟨rows, hrows, hpaired⟩ := shuffle_skew_rows hreads hfactor hone index
  have hcells : ∀ row ∈ rows, ∃ task : Task, ∃ size average, row =
      [ .int index, .int task.stage, .int task.stageAttempt, .int task.id, .int task.attempt,
        .float size, .float average ] := by
    intro row hrow
    obtain ⟨task, -, hof⟩ := exists_of_paired hpaired hrow
    exact ⟨task, cells_of_skew_row hof⟩
  rw [shuffle_skew_reply hclosed, hrows]
  refine ⟨_, rfl, ?_⟩
  rwa [rows_of_skew_listing rfl hcells]

end Store

/-- A task of a stage attempt, and the bytes of other machines that it reads. -/
def readingTask (id stage bytes : Int) : Payload :=
  .object
    [ ("Event", .text "SparkListenerTaskEnd"), ("Stage ID", .int stage),
      ("Stage Attempt ID", .int 0), ("Task End Reason", .object []),
      ("Task Info", .object
        [("Task ID", .int id), ("Launch Time", .int 5), ("Finish Time", .int 9)]),
      ("Task Metrics", .object
        [("Shuffle Read Metrics", .object [("Remote Bytes Read", .int bytes)])]) ]

/-- One of the four tasks of the first stage reads everything. So does one of the three tasks of the
second stage, which are too few. -/
def skewedReads : List Payload :=
  [ readingTask 8 1 0, readingTask 7 1 8000000, readingTask 9 1 0, readingTask 10 1 0,
    readingTask 11 2 8000000, readingTask 12 2 0, readingTask 13 2 0 ]

/-- The task of the first stage is listed. -/
theorem shuffle_skew_lists_skewed : ∃ analysis table,
    Analysis.ofRecords {} 1 skewedReads = .ok analysis ∧
      (skewedTasks analysis.store 3).map Task.id = [7] ∧
      analysis.ask .shuffleSkew = .ok (.table table) ∧
      table.rows.map (·.take 5) = [[.int 1, .int 1, .int 0, .int 7, .int 0]] := by
  have hanswers : (Analysis.ofRecords {} 1 skewedReads).toOption.any (fun analysis =>
      analysis.store.finalized && analysis.settings.skewFactor.toInt? = some 3 &&
        analysis.index = 1 &&
        ReadsModerately analysis.store 3 &&
        (skewedTasks analysis.store 3).map (fun task =>
          [task.stage, task.stageAttempt, task.id, task.attempt]) = [[1, 0, 7, 0]]) = true := by
    decide +kernel
  simp only [Option.any_eq_true, to_option_eq_some_iff, Bool.and_eq_true,
    decide_eq_true_eq] at hanswers
  obtain ⟨analysis, hanalysis, ⟨⟨⟨hclosed, hfactor⟩, hindex⟩, hreads⟩, hskewed⟩ := hanswers
  obtain ⟨task, htasks, hids⟩ := List.map_eq_singleton_iff.mp hskewed
  simp only [List.cons.injEq, and_true] at hids
  obtain ⟨hstage, hattempt, hid, htry⟩ := hids
  obtain ⟨listed, hlisted, -, -, table, hreply, hrows⟩ := shuffle_skew_lists hreads hfactor
    (by decide) hclosed analysis.index analysis.store.tasks
  obtain rfl := List.perm_singleton.mp (htasks ▸ hlisted)
  refine ⟨analysis, table, hanalysis, by rw [htasks, List.map_singleton, hid], hreply, ?_⟩
  obtain ⟨row, rest, hrow, hrest, hboth⟩ := List.forall₂_cons_left_iff.mp hrows
  obtain rfl := List.forall₂_nil_left_iff.mp hrest
  obtain ⟨size, average, rfl⟩ := cells_of_skew_row hrow
  rw [hboth, hindex, hstage, hattempt, hid, htry]
  rfl

end SparkLog.Listing
