import SparkLog.Store.TaskEnd
import SparkLog.Store.Accumulables
import SparkLog.Proofs.Outcome

/-!
# Numbers past their range

Two conversions of raw values have no result and are not skippable: an infinity read as an
integer, and an integer past the floating-point range that is combined with a floating-point
number (`Payload.Clash`). The results here say exactly when the times and the metrics of a task
(`interrupts_end_times_iff`, `interrupts_flatten_metrics_iff`) and a list of accumulables
(`interrupts_accumulables_iff`) meet one.
-/

namespace SparkLog

/-! ## Conversions and operators -/

namespace Payload

/-- An infinity, which is an integer of no size. -/
def IsInfinite (p : Payload) : Prop :=
  ∃ negative, p = .float (.infinite negative)

/-- A truth value, an integer or a floating-point number. -/
def IsNumber (p : Payload) : Prop :=
  ∃ x, p.number? = some x

/-- The integer is past the floating-point range. -/
def ExceedsRange (n : Int) : Prop :=
  Binary64.ofInt? n = none

instance (n : Int) : Decidable (ExceedsRange n) :=
  inferInstanceAs (Decidable (Binary64.ofInt? n = none))

/-- One number is an integer past the floating-point range, the other a floating-point number. -/
def Clash (a b : Payload) : Prop :=
  ∃ n x, ExceedsRange n ∧
    (a.number? = some (.int n) ∧ b.number? = some (.float x) ∨
      a.number? = some (.float x) ∧ b.number? = some (.int n))

/-- Reading an integer interrupts exactly at an infinity. -/
theorem interrupts_to_integer_iff {p : Payload} : Interrupts p.toInteger ↔ p.IsInfinite := by
  cases p with
  | float x =>
      cases x with
      | nan => simp [toInteger, IsInfinite, Failure.isSkippable]
      | infinite negative =>
          exact iff_of_true ⟨.infinityToInteger, rfl, rfl⟩ ⟨negative, rfl⟩
      | finite negative rank =>
          exact iff_of_false (not_interrupts_ok _) (by simp [IsInfinite])
  | text s =>
      refine iff_of_false ?_ (by simp [IsInfinite])
      rw [toInteger]
      cases Decimal.readInteger s with
      | number n => simp
      | _ => simp [Failure.isSkippable]
  | _ => simp [toInteger, IsInfinite, Failure.isSkippable]

/-- A floating-point number is converted to itself. -/
@[simp]
theorem to_binary64_float (x : Binary64) : (Number.float x).toBinary64 = .ok x :=
  rfl

/-- Converting an integer interrupts exactly if it is past the floating-point range. -/
@[simp]
theorem interrupts_to_binary64_int_iff {n : Int} :
    Interrupts (Number.int n).toBinary64 ↔ ExceedsRange n := by
  rw [Number.toBinary64, ExceedsRange]
  cases Binary64.ofInt? n with
  | none => simp [Failure.isSkippable]
  | some x => simp

/-- An integer that is not past the floating-point range is converted. -/
theorem to_binary64_int_ok {n : Int} (h : ¬ ExceedsRange n) :
    ∃ x, (Number.int n).toBinary64 = .ok x := by
  obtain ⟨x, hx⟩ := Option.ne_none_iff_exists'.mp h
  exact ⟨x, by rw [Number.toBinary64, hx, Option.elim]⟩

section

variable {ints : Int → Int → Int} {floats : Binary64 → Binary64 → Binary64} {a b : Payload}
  {x y : Number}

/-- Combining two numbers interrupts exactly if they clash. -/
theorem interrupts_combine_iff (ha : a.number? = some x) (hb : b.number? = some y) :
    Interrupts (x.combine ints floats y) ↔ a.Clash b := by
  cases x <;> cases y <;> simp [Number.combine, interrupts_bind_iff, Clash, ha, hb]

/-- Two numbers that do not clash are combined. -/
theorem combine_ok (ha : a.number? = some x) (hb : b.number? = some y) (h : ¬ a.Clash b) :
    ∃ c, x.combine ints floats y = .ok c := by
  cases x with
  | int m =>
      cases y with
      | int n => exact ⟨_, rfl⟩
      | float z =>
          obtain ⟨w, hw⟩ := to_binary64_int_ok fun hm => h ⟨m, z, hm, .inl ⟨ha, hb⟩⟩
          refine ⟨.float (floats w z), ?_⟩
          simp only [Number.combine, bind_eq_ok_iff, pure_eq_ok_iff]
          exact ⟨w, hw, z, rfl, rfl⟩
  | float z =>
      cases y with
      | int n =>
          obtain ⟨w, hw⟩ := to_binary64_int_ok fun hn => h ⟨n, z, hn, .inr ⟨ha, hb⟩⟩
          refine ⟨.float (floats z w), ?_⟩
          simp only [Number.combine, bind_eq_ok_iff, pure_eq_ok_iff]
          exact ⟨z, rfl, w, hw, rfl⟩
      | float w => exact ⟨_, rfl⟩

end

/-- A difference interrupts exactly if its terms clash. -/
theorem interrupts_minus_iff {a b : Payload} : Interrupts (a.minus b) ↔ a.Clash b := by
  rw [minus]
  cases ha : a.number? with
  | none => simp [Clash, ha, Failure.isSkippable]
  | some x =>
      cases hb : b.number? with
      | none => simp [Clash, hb, Failure.isSkippable]
      | some y => exact interrupts_combine_iff ha hb

/-- A difference is there exactly if its terms are numbers that do not clash. -/
theorem minus_ok_iff {a b : Payload} :
    (∃ c, a.minus b = .ok c) ↔ a.IsNumber ∧ b.IsNumber ∧ ¬ a.Clash b := by
  constructor
  · rintro ⟨c, hc⟩
    have hclash : ¬ a.Clash b := by
      rw [← interrupts_minus_iff, hc]
      exact not_interrupts_ok c
    rw [minus] at hc
    split at hc
    · rename_i ha hb
      exact ⟨⟨_, ha⟩, ⟨_, hb⟩, hclash⟩
    · cases hc
  · rintro ⟨⟨x, ha⟩, ⟨y, hb⟩, hclash⟩
    simpa only [minus, ha, hb] using combine_ok ha hb hclash

/-- A sum interrupts exactly if its terms clash. -/
theorem interrupts_plus_iff {a b : Payload} : Interrupts (a.plus b) ↔ a.Clash b := by
  unfold plus
  split
  · rename_i x y ha hb
    exact interrupts_combine_iff ha hb
  · rename_i hnone
    refine iff_of_false ?_ ?_
    · split <;> simp [Failure.isSkippable]
    · rintro ⟨n, x, -, ⟨ha, hb⟩ | ⟨ha, hb⟩⟩
      · exact hnone _ _ ha hb
      · exact hnone _ _ ha hb

/-- A floored quotient is there exactly of a number. -/
theorem floor_divide_ok_iff {a : Payload} {divisor : Nat} :
    (∃ c, a.floorDivide divisor = .ok c) ↔ a.IsNumber := by
  rw [floorDivide, IsNumber]
  cases a.number? with
  | none => simp
  | some x => cases x <;> simp

/-- A floored quotient does not interrupt. -/
theorem not_interrupts_floor_divide {a : Payload} {divisor : Nat} :
    ¬ Interrupts (a.floorDivide divisor) := by
  rw [floorDivide]
  cases a.number? with
  | none => simp [Failure.isSkippable]
  | some x => cases x <;> simp

/-- Looking into a payload by key does not interrupt. -/
theorem not_interrupts_fields {p : Payload} : ¬ Interrupts p.fields := by
  cases p <;> simp [fields, Failure.isSkippable]

/-- Going through a payload item by item does not interrupt. -/
theorem not_interrupts_items {p : Payload} : ¬ Interrupts p.items := by
  cases p <;> simp [items, Failure.isSkippable]

/-- Fields are there exactly of an object. -/
theorem fields_eq_ok_iff {p : Payload} {members : Fields} :
    p.fields = .ok members ↔ p = .object members := by
  cases p <;> simp [fields]

/-- Only the items of a list can be objects. -/
theorem eq_list_of_items {p : Payload} {members : List Payload} {fields : Fields}
    (h : p.items = .ok members) (hmem : .object fields ∈ members) : p = .list members := by
  cases p with
  | list others => exact congrArg Payload.list (Except.ok.inj h)
  | text s =>
      obtain rfl := Except.ok.inj h
      simp at hmem
  | object others =>
      obtain rfl := Except.ok.inj h
      simp at hmem
  | _ => cases h

end Payload

/-! ## The end of a task -/

open Payload

/-- The two payloads have a difference. -/
def Payload.Subtracts (a b : Payload) : Prop :=
  a.IsNumber ∧ b.IsNumber ∧ ¬ a.Clash b

/-- Both spans of the end of a task can be computed. -/
def TimesFit (info : Fields) : Prop :=
  ((finishTime info).isTruthy → (finishTime info).Subtracts (launchTime info)) ∧
    ((fetchTime info).isTruthy → (finishTime info).Subtracts (fetchTime info))

/-- One of the spans of the end of a task meets a clash, and those before it can be computed. -/
def TimesOverflow (info : Fields) : Prop :=
  ((finishTime info).isTruthy ∧ (finishTime info).Clash (launchTime info)) ∨
    ((finishTime info).isTruthy → (finishTime info).Subtracts (launchTime info)) ∧
      (fetchTime info).isTruthy ∧ (finishTime info).Clash (fetchTime info)

/-- A span interrupts exactly if it is computed of times that clash. -/
theorem interrupts_time_span_iff {condition a b : Payload} :
    Interrupts (timeSpan condition a b) ↔ condition.isTruthy ∧ a.Clash b := by
  rw [timeSpan]
  cases condition.isTruthy <;> simp [interrupts_minus_iff]

/-- A span is there exactly if it is zero or computed of times that have a difference. -/
theorem time_span_ok_iff {condition a b : Payload} :
    (∃ span, timeSpan condition a b = .ok span) ↔ (condition.isTruthy → a.Subtracts b) := by
  rw [timeSpan]
  cases condition.isTruthy <;> simp [minus_ok_iff, Subtracts]

/-- The times of a task interrupt exactly if one of its spans meets a clash. -/
theorem interrupts_end_times_iff {info : Fields} :
    Interrupts (endTimes info) ↔ TimesOverflow info := by
  simp only [endTimes, interrupts_bind_iff, interrupts_time_span_iff, not_interrupts_pure,
    and_false, exists_false, or_false, exists_and_right, time_span_ok_iff]
  rfl

/-- The times of a task are there exactly if both of its spans can be computed. -/
theorem end_times_ok_iff {info : Fields} :
    (∃ times, endTimes info = .ok times) ↔ TimesFit info := by
  rw [TimesFit, ← time_span_ok_iff, ← time_span_ok_iff]
  simp only [endTimes, bind_eq_ok_iff, pure_eq_ok_iff]
  constructor
  · rintro ⟨times, duration, hduration, fetched, hfetched, -⟩
    exact ⟨⟨duration, hduration⟩, ⟨fetched, hfetched⟩⟩
  · rintro ⟨⟨duration, hduration⟩, ⟨fetched, hfetched⟩⟩
    exact ⟨_, duration, hduration, fetched, hfetched, rfl⟩

/-- The bytes read remotely and locally clash, and the metrics before them can be computed. -/
def BytesOverflow (metrics : Fields) : Prop :=
  ∃ read, rawGroup metrics "Shuffle Read Metrics" = .object read ∧
    (rawMetric metrics "Executor Deserialize CPU Time").IsNumber ∧
    (rawMetric metrics "Executor CPU Time").IsNumber ∧
    (rawMetric read "Remote Bytes Read").Clash (rawMetric read "Local Bytes Read")

/-- The metrics of a task interrupt exactly if the bytes that it read clash. -/
theorem interrupts_flatten_metrics_iff {metrics : Fields} :
    Interrupts (flattenMetrics metrics) ↔ BytesOverflow metrics := by
  simp only [flattenMetrics, milliMetric, interrupts_bind_iff, not_interrupts_fields,
    not_interrupts_floor_divide, interrupts_plus_iff, not_interrupts_pure, fields_eq_ok_iff,
    false_or, and_false, exists_false, or_false, exists_and_right, floor_divide_ok_iff]
  rfl

/-! ## Accumulables -/

variable {stage attempt task : Payload}

/-- The value of an accumulable interrupts exactly at an infinity. -/
theorem interrupts_accumulator_value_iff {value : Payload} :
    Interrupts (accumulatorValue value) ↔ value.IsInfinite := by
  cases value with
  | float x => simp only [accumulatorValue, interrupts_map_iff, interrupts_to_integer_iff]
  | _ => simp [accumulatorValue, IsInfinite]

/-- An entry interrupts exactly if it is an object with an infinite value. -/
theorem interrupts_accumulable_iff {entry : Payload} :
    Interrupts (accumulable? stage attempt task entry) ↔
      ∃ fields, entry = .object fields ∧ (Fields.find fields "Value").IsInfinite := by
  simp only [accumulable?, interrupts_bind_iff, not_interrupts_fields, false_or, fields_eq_ok_iff,
    interrupts_accumulator_value_iff]
  constructor
  · rintro ⟨fields, rfl, hinfinite | ⟨value, -, hrest⟩⟩
    · exact ⟨fields, rfl, hinfinite⟩
    · -- Behind the value only the fields of a record are checked.
      split at hrest <;> simp at hrest
  · rintro ⟨fields, rfl, hinfinite⟩
    exact ⟨fields, rfl, .inl hinfinite⟩

/-- An entry with an infinite value stands behind entries that can be read. -/
def AccumulablesOverflow (stage attempt task entries : Payload) : Prop :=
  ∃ before fields after,
    entries = .list (before ++ .object fields :: after) ∧
    (∀ earlier ∈ before, ∃ read, accumulable? stage attempt task earlier = .ok read) ∧
    (Fields.find fields "Value").IsInfinite

/-- A list of accumulables interrupts exactly if an entry with an infinite value is reached. -/
theorem interrupts_accumulables_iff {entries : Payload} :
    Interrupts (accumulables stage attempt task entries) ↔
      AccumulablesOverflow stage attempt task entries := by
  -- A list that is not truthy is empty, so it has no entry to interrupt at.
  have htruthy : Interrupts (accumulables stage attempt task entries) ↔
      entries.isTruthy ∧ ∃ items, entries.items = .ok items ∧
        Interrupts (items.mapM (accumulable? stage attempt task)) := by
    unfold accumulables
    cases entries.isTruthy <;> simp [interrupts_bind_iff, not_interrupts_items]
  simp only [htruthy, interrupts_map_m_iff, interrupts_accumulable_iff]
  constructor
  · rintro ⟨-, items, hitems, before, _, after, rfl, hbefore, fields, rfl, hinfinite⟩
    have hmem : Payload.object fields ∈ before ++ .object fields :: after := by simp
    exact ⟨before, fields, after, eq_list_of_items hitems hmem, hbefore, hinfinite⟩
  · rintro ⟨before, fields, after, rfl, hbefore, hinfinite⟩
    exact ⟨by simp [isTruthy], _, rfl, before, _, after, rfl, hbefore, fields, rfl, hinfinite⟩

end SparkLog
