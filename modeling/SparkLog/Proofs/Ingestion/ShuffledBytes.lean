import SparkLog.Proofs.Decimal.Joined
import SparkLog.Proofs.Ingestion.Overflow
import SparkLog.Proofs.Number.Rounding
import SparkLog.Proofs.TaskTable

/-!
# The bytes that a task read from shuffles

The total of the bytes is added up before its parts are read as integers, so it is their sum only
where both ways agree. They do for integers and truth values. Floating-point numbers are rounded,
and numerals are joined instead of added (`Payload.plus_int_iff`). Every task that a run
records has its bytes from an event, and its total is the sum of its parts exactly where those of
the event add up (`Session.total_bytes_iff`).
-/

namespace SparkLog

/-! ## Sums of what is read -/

/-- Two integers that are added as floating-point numbers make their sum. -/
def Binary64.Sums (m n : Int) : Prop :=
  ((ofRatio m 1).add (ofRatio n 1)).toInt? = some (m + n)

/-- Integers below two to the power 53 in magnitude make their sum, if that is below, too. -/
theorem Binary64.sums_of_lt {m n : Int} (hm : m.natAbs < 2 ^ 53) (hn : n.natAbs < 2 ^ 53)
    (hsum : (m + n).natAbs < 2 ^ 53) : Sums m n :=
  (add_exact (of_ratio_units hm) (of_ratio_units hn) hsum).to_int

namespace Payload

/-- Two raw values, read as integers, add up to what their sum is read as. Of numerals, the first
one ends in a point with zeros, or is zero without a minus before what follows; of floating-point
numbers, the sum is not rounded; of integers and truth values it always is so. -/
def AddsUp : Payload → Payload → Int → Int → Prop
  | .text s, _, m, n => '.' ∈ s.toList ∨ m = 0 ∧ (n = 0 ∨ '-' ∉ s.toList)
  | .float _, _, m, n => Binary64.Sums m n
  | _, .float _, m, n => Binary64.Sums m n
  | _, _, _, _ => True

variable {p remote local_ sum : Payload} {m n total : Int}

/-- What is read as an integer is a numeral, an integer or truth value, or a whole floating-point
number. -/
theorem cases_of_schema_int (h : Schema.int p = .ok n) :
    (∃ text, p = .text text ∧ Decimal.fieldInteger? text = some n) ∨
      p.number? = some (.int n) ∨
      ∃ x, p = .float x ∧ x.IsUnits (Binary64.unitsOfOne * n) := by
  cases p with
  | int m =>
      obtain rfl : m = n := Checked.ok.inj h
      exact .inr (.inl rfl)
  | bool b =>
      obtain rfl : (if b then 1 else 0) = n := Checked.ok.inj h
      exact .inr (.inl rfl)
  | float x =>
      exact .inr (.inr ⟨x, rfl, Binary64.units_of_to_int (Schema.to_int_of_int_float h)⟩)
  | text text => exact .inl ⟨text, rfl, Checked.of_option_eq_ok_iff.mp h⟩
  | null | list | object => cases h

/-- A number of a kind is as many units as the integer that it stands for, once that is rounded. -/
def Number.Rounds (number : Number) (n : Int) : Prop :=
  ∀ x, number.toBinary64 = .ok x →
    ∃ units, x.IsUnits units ∧ (Binary64.ofRatio n 1).IsUnits units

/-- An integer is rounded where it is converted. -/
theorem Number.rounds_int (n : Int) : (Number.int n).Rounds n := by
  intro x hx
  simp only [toBinary64, Binary64.ofInt?] at hx
  cases hnumber : Binary64.ofRatio n 1 with
  | finite negative rank =>
      rw [hnumber] at hx
      cases hx
      exact ⟨_, ⟨_, _, rfl, rfl⟩, ⟨_, _, rfl, rfl⟩⟩
  | nan | infinite =>
      rw [hnumber] at hx
      cases hx

/-- A whole floating-point number is there already. -/
theorem Number.rounds_float {x : Binary64} (h : x.IsUnits (Binary64.unitsOfOne * n)) :
    (Number.float x).Rounds n := by
  intro y hy
  cases hy
  exact ⟨_, h, h.of_ratio⟩

/-- A sum of floating-point numbers is read as the sum of the integers that they stand for exactly
if these make it. -/
theorem combine_floats_iff {first second : Number} (hfirst : first.Rounds m)
    (hsecond : second.Rounds n)
    (hsum : (do
      let x ← first.toBinary64
      let y ← second.toBinary64
      return Payload.float (x.add y)) = .ok sum)
    (htotal : Schema.int sum = .ok total) : total = m + n ↔ Binary64.Sums m n := by
  simp only [bind_eq_ok_iff, pure_eq_ok_iff] at hsum
  obtain ⟨x, hx, y, hy, rfl⟩ := hsum
  obtain ⟨a, hxa, hma⟩ := hfirst x hx
  obtain ⟨b, hyb, hnb⟩ := hsecond y hy
  rw [Binary64.Sums, ← hxa.add_to_int hma hyb hnb, Schema.to_int_of_int_float htotal,
    Option.some.injEq]

/-- The sum of two raw values is read as the sum of what they are read as exactly if they add
up. -/
theorem plus_int_iff (hremote : Schema.int remote = .ok m) (hlocal : Schema.int local_ = .ok n)
    (hsum : remote.plus local_ = .ok sum) (htotal : Schema.int sum = .ok total) :
    total = m + n ↔ remote.AddsUp local_ m n := by
  -- The kinds of both, text, integer and floating-point number; a text beside a number has no sum.
  obtain ⟨s, rfl, hs⟩ | hm | ⟨x, rfl, hx⟩ := cases_of_schema_int hremote <;>
    obtain ⟨t, rfl, ht⟩ | hn | ⟨y, rfl, hy⟩ := cases_of_schema_int hlocal
  · cases hsum
    exact Decimal.joined_integer_iff hs ht (Checked.of_option_eq_ok_iff.mp htotal)
  · cases local_ with
    | int | bool => cases hsum
    | _ => cases hn
  · cases hsum
  · cases remote with
    | int | bool => cases hsum
    | _ => cases hm
  · unfold plus at hsum
    rw [hm, hn] at hsum
    cases hsum
    cases htotal
    cases remote with
    | int | bool =>
        cases local_ with
        | int | bool => exact iff_of_true rfl trivial
        | _ => cases hn
    | _ => cases hm
  · unfold plus at hsum
    rw [hm] at hsum
    have hiff := combine_floats_iff (Number.rounds_int m) (Number.rounds_float hy) hsum htotal
    cases remote with
    | int | bool => exact hiff
    | _ => cases hm
  · cases hsum
  · unfold plus at hsum
    rw [hn] at hsum
    exact combine_floats_iff (Number.rounds_float hx) (Number.rounds_int n) hsum htotal
  · exact combine_floats_iff (Number.rounds_float hx) (Number.rounds_float hy) hsum htotal

end Payload

/-! ## What tasks are told -/

/-- The remote and the local bytes that were read, as the end of a task has them; zero where they
are absent. -/
def EventContent.readBytes? : EventContent → Option (Payload × Payload)
  | .taskEnd _ _ _ _ _ metrics _ =>
    match rawGroup (metrics.getD []) "Shuffle Read Metrics" with
    | .object read => some (rawMetric read "Remote Bytes Read", rawMetric read "Local Bytes Read")
    | _ => none
  | _ => none

/-- The bytes of a task that ended are those of its event, and their total is read from the sum of
the raw values. -/
theorem bytes_of_task {content : EventContent} {task : Task}
    (h : content.task? = some (.ok task)) :
    ∃ remote local_ sum, content.readBytes? = some (remote, local_) ∧
      Schema.int remote = .ok task.metrics.remoteBytes ∧
      Schema.int local_ = .ok task.metrics.localBytes ∧
      remote.plus local_ = .ok sum ∧ Schema.int sum = .ok task.metrics.totalBytes := by
  cases content with
  | taskEnd stage attempt type reason info metrics executorMetrics =>
      have htask : taskOfEnd stage attempt type reason info metrics = .ok task := Option.some.inj h
      simp only [taskOfEnd, flattenMetrics, bind_eq_ok_iff, pure_eq_ok_iff,
        Schema.accept_eq_ok_iff] at htask
      obtain ⟨⟨duration, fetched⟩, -, row, ⟨read, hread, _, -, _, -, sum, hsum, _, -, _, -, _, -,
        _, -, rfl⟩, htask⟩ := htask
      have hmetrics := Store.metrics_of_fields (Store.task_of_fields_metrics htask)
      have hgroup : rawGroup (metrics.getD []) "Shuffle Read Metrics" = .object read :=
        Payload.fields_eq_ok_iff.mp hread
      refine ⟨_, _, sum, ?_, hmetrics .remoteBytes, hmetrics .localBytes, hsum,
        hmetrics .totalBytes⟩
      simp only [EventContent.readBytes?, hgroup]
  | _ => cases h

namespace Session

/-- Every task that a run records has its remote and its local bytes from an event of the run, and
its total is their sum exactly if the raw values of the event add up. -/
theorem total_bytes_iff (index : Int) (settings : Settings) (steps : List SessionStep) {task : Task}
    (h : task ∈ (run { index, settings } steps).1.store.tasks) :
    ∃ step ∈ steps, ∃ event remote local_, step.event? settings = some event ∧
      event.content.task? = some (.ok task) ∧
      event.content.readBytes? = some (remote, local_) ∧
      Schema.int remote = .ok task.metrics.remoteBytes ∧
      Schema.int local_ = .ok task.metrics.localBytes ∧
      (task.metrics.totalBytes = task.metrics.remoteBytes + task.metrics.localBytes ↔
        remote.AddsUp local_ task.metrics.remoteBytes task.metrics.localBytes) := by
  obtain hnone | ⟨step, hstep, event, hevent, htask⟩ := mem_run_tasks h
  · cases hnone
  · obtain ⟨remote, local_, sum, hbytes, hremote, hlocal, hsum, htotal⟩ := bytes_of_task htask
    exact ⟨step, hstep, event, remote, local_, hevent, htask, hbytes, hremote, hlocal,
      Payload.plus_int_iff hremote hlocal hsum htotal⟩

/-- The end of a task that read bytes. -/
def endedReading (remote local_ : Payload) : SessionStep :=
  .event (.object
    [ ("Event", .text "SparkListenerTaskEnd"), ("Stage ID", .int 1), ("Stage Attempt ID", .int 0),
      ("Task End Reason", .object []), ("Task Info", .object [("Task ID", .int 7)]),
      ("Task Metrics", .object
        [("Shuffle Read Metrics", .object
          [("Remote Bytes Read", remote), ("Local Bytes Read", local_)])]) ])

/-- An integer and a whole floating-point number add up. -/
theorem total_bytes_iff_mixed :
    let two := Payload.float (Binary64.ofRatio 2 1)
    let steps := [endedReading (.int 3) two]
    (Payload.int 3).AddsUp two 3 2 ∧
      ∃ task ∈ (run {} steps).1.store.tasks, task.metrics.totalBytes = 5 ∧
        ∃ step ∈ steps, ∃ event remote local_, step.event? {} = some event ∧
          event.content.task? = some (.ok task) ∧
          event.content.readBytes? = some (remote, local_) ∧
          Schema.int remote = .ok task.metrics.remoteBytes ∧
          Schema.int local_ = .ok task.metrics.localBytes ∧
          (task.metrics.totalBytes = task.metrics.remoteBytes + task.metrics.localBytes ↔
            remote.AddsUp local_ task.metrics.remoteBytes task.metrics.localBytes) := by
  intro two steps
  have htold : ∃ task ∈ (run {} steps).1.store.tasks, task.metrics.totalBytes = 5 := by
    decide +kernel
  obtain ⟨task, htask, htotal⟩ := htold
  exact ⟨Binary64.sums_of_lt (by decide) (by decide) (by decide), task, htask, htotal,
    total_bytes_iff 1 {} steps htask⟩

/-- The remote, the local and the total bytes of the tasks that a run records. -/
def recordedBytes (steps : List SessionStep) : List (Int × Int × Int) :=
  (run {} steps).1.store.tasks.map fun task =>
    (task.metrics.remoteBytes, task.metrics.localBytes, task.metrics.totalBytes)

/-- Numerals are joined, and a floating-point sum past two to the power 53 is rounded. -/
theorem total_bytes_apart :
    recordedBytes [endedReading (.text "1") (.text "2")] = [(1, 2, 12)] ∧
      recordedBytes [endedReading (.float (Binary64.ofRatio (2 ^ 53) 1)) (.int 1)] =
        [(2 ^ 53, 1, 2 ^ 53)] := by
  constructor <;> decide +kernel

end Session

end SparkLog
