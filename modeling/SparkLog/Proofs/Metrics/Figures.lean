import Mathlib
import SparkLog.Metrics.Aggregate
import SparkLog.Proofs.Number.Rounding

/-!
# Figures of bounded values

A running sum of values below two to the power 53 in magnitude grows by about a value each time, as
its compensation holds what was lost in rounding (`units_after_steady`), until it is so large that
values are lost altogether (`units_after_limited`). So it is never far from what so many values can
add up to (`RunningSum.Steady`, `RunningSum.fold_steady`), and their average has a figure
(`average_figure`). So has every other way to roll these values up (`aggregate_ok`) and the share of
two of them (`cpu_share_ok`).
-/

namespace SparkLog.Metrics

open Binary64

/-! ## Running sums -/

/-- What values are below, in units. -/
def valueLimit : Nat := unitsOfOne * 2 ^ 53

/-- What running sums of such values never go past, with their compensation within `lossLimit`. -/
def sumLimit : Nat := valueLimit * 2 ^ 107

/-- Half a step of the running sums past their limit. -/
def lossLimit : Nat := valueLimit * 2 ^ 54

/-- Some running sums together are moderate. -/
theorem sum_limit_moderate : 32 * sumLimit ≤ unitsOfOne * 2 ^ 200 := by
  unfold sumLimit valueLimit
  generalize unitsOfOne = one
  omega

/-- Half a step past the limit of running sums is rounded off. -/
theorem nearest_units_le_sum_limit {units : Int} (h : units.natAbs ≤ sumLimit + lossLimit) :
    (nearestUnits units).natAbs ≤ sumLimit := by
  have hlimit : unitsOfRank (nearestRank (sumLimit + lossLimit) 1) = sumLimit := by decide +kernel
  exact (nearest_units_le h).trans_eq hlimit

/-- Nothing past the limit of running sums is rounded below it. -/
theorem sum_limit_le_nearest_units {units : Int} (h : sumLimit ≤ units.natAbs) :
    sumLimit ≤ (nearestUnits units).natAbs := by
  have hlimit : unitsOfRank (nearestRank sumLimit 1) = sumLimit := by decide +kernel
  exact hlimit.symm.trans_le (le_nearest_units h)

/-- Below the limit of running sums, steps are half as wide. -/
theorem sum_error {units : Int} (h : units.natAbs < sumLimit) :
    2 * (nearestUnits units - units).natAbs ≤ lossLimit := by
  have hpower : sumLimit = 2 ^ 1234 := by decide +kernel
  have herror := nearest_units_error_of_lt (hpower ▸ h)
  rw [← hpower] at herror
  unfold sumLimit at herror
  unfold lossLimit
  generalize valueLimit = limit at herror ⊢
  omega

/-- Half a step past the limit of compensations is rounded off. -/
theorem nearest_units_le_loss_limit {units : Int}
    (h : units.natAbs ≤ lossLimit + 2 * valueLimit) :
    (nearestUnits units).natAbs ≤ lossLimit := by
  have hlimit : unitsOfRank (nearestRank (lossLimit + 2 * valueLimit) 1) = lossLimit := by
    decide +kernel
  exact (nearest_units_le h).trans_eq hlimit

/-- The units of a running sum and of its compensation after a value. -/
def unitsAfter (sum loss value : Int) : Int × Int :=
  let corrected := nearestUnits (value - loss)
  let next := nearestUnits (sum + corrected)
  (next, nearestUnits (nearestUnits (next - sum) - corrected))

section Rough

variable {a b : Int} {m n limit : Nat}

/-- A sum is within the limits of its parts together. -/
theorem nat_abs_add_le_limits (ha : a.natAbs ≤ m * limit) (hb : b.natAbs ≤ n * limit) :
    (a + b).natAbs ≤ (m + n) * limit := by
  rw [Nat.add_mul]
  exact (Int.natAbs_add_le a b).trans (Nat.add_le_add ha hb)

/-- A difference is within the limits of its parts together. -/
theorem nat_abs_sub_le_limits (ha : a.natAbs ≤ m * limit) (hb : b.natAbs ≤ n * limit) :
    (a - b).natAbs ≤ (m + n) * limit := by
  rw [Nat.add_mul]
  exact (Int.natAbs_sub_le a b).trans (Nat.add_le_add ha hb)

/-- Rounding at most doubles. -/
theorem nearest_units_le_double (ha : a.natAbs ≤ m * limit) :
    (nearestUnits a).natAbs ≤ (m + m) * limit := by
  obtain ⟨error, hunits, herror⟩ := exists_rounding_error a
  rw [hunits, Nat.add_mul]
  have hsum := Int.natAbs_add_le a error
  omega

end Rough

/-- A running sum takes a value as the units of its parts do, as long as they are moderate. -/
theorem RunningSum.add_units {running : RunningSum} {x : Binary64} {sum loss value : Int}
    (hsum : running.sum.IsUnits sum) (hloss : running.compensation.IsUnits loss)
    (hx : x.IsUnits value) (hsumBound : sum.natAbs ≤ sumLimit)
    (hlossBound : loss.natAbs ≤ sumLimit) (hvalue : value.natAbs ≤ sumLimit) :
    (running.add x).sum.IsUnits (unitsAfter sum loss value).1 ∧
      (running.add x).compensation.IsUnits (unitsAfter sum loss value).2 := by
  have hmoderate {m : Nat} (hm : m ≤ 32) : m * sumLimit ≤ unitsOfOne * 2 ^ 200 :=
    (Nat.mul_le_mul_right _ hm).trans sum_limit_moderate
  rw [← Nat.one_mul sumLimit] at hsumBound hlossBound hvalue
  have hfirst := nat_abs_sub_le_limits hvalue hlossBound
  have hcorrected := sub_units hx hloss (hfirst.trans (hmoderate (by decide)))
  have hfirst := nearest_units_le_double hfirst
  have hsecond := nat_abs_add_le_limits hsumBound hfirst
  have hnext := Binary64.add_units hsum hcorrected (hsecond.trans (hmoderate (by decide)))
  have hthird := nat_abs_sub_le_limits (nearest_units_le_double hsecond) hsumBound
  have hlost := sub_units hnext hsum (hthird.trans (hmoderate (by decide)))
  have hfourth := nat_abs_sub_le_limits (nearest_units_le_double hthird) hfirst
  have hrest := sub_units hlost hcorrected (hfourth.trans (hmoderate (by decide)))
  refine ⟨hnext, ?_⟩
  unfold RunningSum.add
  dsimp only
  rw [if_neg (by rw [hrest.is_nan]; exact Bool.false_ne_true)]
  exact hrest

section Units

variable {sum loss value : Int}

/-- Running sums and their compensations stay within their limits, however many values are added. -/
theorem units_after_limited (hsum : sum.natAbs ≤ sumLimit) (hloss : loss.natAbs ≤ lossLimit)
    (hvalue : value.natAbs ≤ valueLimit) : (unitsAfter sum loss value).1.natAbs ≤ sumLimit ∧
      (unitsAfter sum loss value).2.natAbs ≤ lossLimit := by
  have hwide : 2 ^ 54 * valueLimit ≤ lossLimit := Nat.le_of_eq (Nat.mul_comm _ _)
  unfold unitsAfter
  dsimp only
  have hcorrected : (nearestUnits (value - loss)).natAbs ≤ lossLimit :=
    nearest_units_le_loss_limit (by omega)
  generalize nearestUnits (value - loss) = corrected at hcorrected ⊢
  have hnext : (nearestUnits (sum + corrected)).natAbs ≤ sumLimit :=
    nearest_units_le_sum_limit (by omega)
  refine ⟨hnext, nearest_units_le_loss_limit ?_⟩
  have hlost := nearest_units_error (nearestUnits (sum + corrected) - sum)
  generalize nearestUnits (nearestUnits (sum + corrected) - sum) = lost at hlost ⊢
  -- A sum past the limit is rounded to the limit, and what is lost is no more than was added.
  by_cases hpast : sumLimit ≤ (sum + corrected).natAbs
  · have hlimit := sum_limit_le_nearest_units hpast
    have hsign := nearest_units_sign (sum + corrected)
    generalize nearestUnits (sum + corrected) = next at *
    have hadded : (next - sum).natAbs ≤ corrected.natAbs ∧
        (next - sum - corrected).natAbs ≤ corrected.natAbs := by
      clear hlost
      omega
    clear hsign hlimit hpast hnext hsum
    omega
  · have herror := sum_error (Nat.lt_of_not_le hpast)
    generalize nearestUnits (sum + corrected) = next at *
    clear hpast hnext hsum
    omega

/-- While values are few enough, each adds about its magnitude to what a running sum and its
compensation are together, and the compensation stays far behind. -/
theorem units_after_steady {count : Nat} (hcount : count ≤ 2 ^ 98)
    (hsum : (sum - loss).natAbs ≤ count * (8 * valueLimit))
    (hloss : 2 ^ 47 * loss.natAbs ≤ count * valueLimit) (hvalue : value.natAbs ≤ valueLimit) :
    ((unitsAfter sum loss value).1 - (unitsAfter sum loss value).2).natAbs ≤
        (count + 1) * (8 * valueLimit) ∧
      2 ^ 47 * (unitsAfter sum loss value).2.natAbs ≤ (count + 1) * valueLimit := by
  have hmany : count * valueLimit ≤ 2 ^ 98 * valueLimit := Nat.mul_le_mul_right _ hcount
  rw [Nat.mul_left_comm] at hsum ⊢
  rw [Nat.add_mul, Nat.one_mul]
  unfold unitsAfter
  dsimp only
  generalize valueLimit = limit at *
  generalize count * limit = many at *
  obtain ⟨first, hcorrected, hfirst⟩ := exists_rounding_error (value - loss)
  rw [hcorrected]
  obtain ⟨second, hnext, hsecond⟩ := exists_rounding_error (sum + (value - loss + first))
  rw [hnext]
  obtain ⟨third, hlost, hthird⟩ :=
    exists_rounding_error (sum + (value - loss + first) + second - sum)
  rw [hlost]
  obtain ⟨fourth, hrest, hfourth⟩ := exists_rounding_error
    (sum + (value - loss + first) + second - sum + third - (value - loss + first))
  rw [hrest]
  clear hcorrected hnext hlost hrest
  -- Only the second rounding is off by as much as a step of the sum, which is then what the new
  -- compensation holds.
  have hfirst : 2 ^ 53 * first.natAbs ≤ limit + loss.natAbs := by
    clear * - hfirst hvalue
    omega
  have hsecond : 2 ^ 53 * second.natAbs ≤ 8 * many + limit + 2 * loss.natAbs + first.natAbs := by
    clear * - hsecond hsum hvalue
    omega
  have hthird : 2 ^ 53 * third.natAbs ≤
      limit + loss.natAbs + first.natAbs + second.natAbs := by
    clear * - hthird hvalue
    omega
  have hfourth : 2 ^ 53 * fourth.natAbs ≤ second.natAbs + third.natAbs := by
    clear * - hfourth
    omega
  constructor
  · have hkept : first.natAbs + third.natAbs + fourth.natAbs ≤ limit := by
      clear * - hfirst hsecond hthird hfourth hloss hmany
      omega
    clear * - hkept hsum hvalue
    omega
  · have hlost : 2 ^ 47 * (second.natAbs + third.natAbs + fourth.natAbs) ≤ many + limit := by
      clear * - hfirst hsecond hthird hfourth hloss hmany
      omega
    clear * - hlost
    omega

end Units

/-- A running sum of so many values: it and its compensation stay within their limits, and while the
values are few enough, the two together are at most eight times what so many values can add up to,
and the compensation is far behind. -/
def RunningSum.Steady (running : RunningSum) (count : Nat) : Prop :=
  ∃ sum loss, running.sum.IsUnits sum ∧ running.compensation.IsUnits loss ∧
    sum.natAbs ≤ sumLimit ∧ loss.natAbs ≤ lossLimit ∧
    (count ≤ 2 ^ 98 → (sum - loss).natAbs ≤ count * (8 * valueLimit) ∧
      2 ^ 47 * loss.natAbs ≤ count * valueLimit)

namespace RunningSum

/-- A running sum of nothing is steady. -/
theorem start_steady : Steady ⟨zero false, zero false⟩ 0 :=
  ⟨0, 0, zero_units false, zero_units false, Nat.zero_le _, Nat.zero_le _, fun _ =>
    ⟨Nat.zero_le _, Nat.zero_le _⟩⟩

variable {running : RunningSum} {count : Nat}

/-- A value more keeps a running sum steady. -/
theorem add_steady (h : running.Steady count) {x : Binary64} {value : Int} (hx : x.IsUnits value)
    (hvalue : value.natAbs ≤ valueLimit) : (running.add x).Steady (count + 1) := by
  obtain ⟨sum, loss, hsum, hloss, hsumLimit, hlossLimit, hfew⟩ := h
  have hwide : valueLimit ≤ sumLimit ∧ lossLimit ≤ sumLimit := by
    unfold sumLimit lossLimit
    omega
  obtain ⟨hnext, hrest⟩ := add_units hsum hloss hx hsumLimit (hlossLimit.trans hwide.2)
    (hvalue.trans hwide.1)
  obtain ⟨hnextLimit, hrestLimit⟩ := units_after_limited hsumLimit hlossLimit hvalue
  refine ⟨_, _, hnext, hrest, hnextLimit, hrestLimit, fun hcount => ?_⟩
  obtain ⟨htogether, hbehind⟩ := hfew (Nat.le_of_succ_le hcount)
  exact units_after_steady (Nat.le_of_succ_le hcount) htogether hbehind hvalue

/-- A running sum of values below two to the power 53 in magnitude is steady. -/
theorem fold_steady {values : List Int} (hvalues : ∀ value ∈ values, value.natAbs < 2 ^ 53)
    (h : running.Steady count) :
    (values.foldl (fun running n => running.add (ofRatio n 1)) running).Steady
      (count + values.length) := by
  induction values generalizing running count with
  | nil => exact h
  | cons value rest ih =>
      obtain ⟨hvalue, hrest⟩ := List.forall_mem_cons.mp hvalues
      have hlimit : ((unitsOfOne : Int) * value).natAbs ≤ valueLimit := by
        rw [Int.natAbs_mul, Int.natAbs_natCast]
        exact Nat.mul_le_mul_left _ hvalue.le
      have hsum := ih hrest (add_steady h (of_ratio_units hvalue) hlimit)
      rwa [Nat.add_assoc, Nat.add_comm 1] at hsum

/-- A steady running sum is at most so many times as large as its values. -/
theorem Steady.sum_le (h : running.Steady count) : ∃ sum, running.sum.IsUnits sum ∧
    sum.natAbs ≤ count * (2 ^ 9 * valueLimit) := by
  obtain ⟨sum, loss, hsum, -, hlimit, -, hfew⟩ := h
  refine ⟨sum, hsum, ?_⟩
  rw [Nat.mul_left_comm]
  by_cases hcount : count ≤ 2 ^ 98
  · obtain ⟨htogether, hbehind⟩ := hfew hcount
    rw [Nat.mul_left_comm] at htogether
    generalize count * valueLimit = many at htogether hbehind ⊢
    clear hlimit hfew
    omega
  · -- So many values are worth more than the limit, which the sum does not pass.
    have hmany : 2 ^ 98 * valueLimit ≤ count * valueLimit := Nat.mul_le_mul_right _ (by omega)
    unfold sumLimit at hlimit
    generalize count * valueLimit = many at hmany ⊢
    generalize valueLimit = limit at hmany hlimit
    clear hfew
    omega

end RunningSum

/-! ## Figures -/

/-- A moderate quotient has a figure with up to two places. -/
theorem quotient_figure (negative : Bool) {num den : Nat} (h : num ≤ unitsOfOne * 2 ^ 63 * den)
    {digits : Int} (hdigits : digits ≤ 2) :
    ∃ x, figure (Decimal.roundFloat? (ofUnitRatio negative num den) digits) = .ok x := by
  obtain ⟨rank, hnumber, -, hunits⟩ := of_unit_ratio_finite negative (by decide : 63 ≤ 200) h
  rw [show 63 + 1 = 64 from rfl] at hunits
  obtain ⟨x, hx⟩ := Decimal.round_float_some negative hunits hdigits
  exact ⟨x, by rw [hnumber, hx]; rfl⟩

/-- A quotient by an integer has a figure if it is moderate. -/
theorem quotient_by_int_figure (negative : Bool) {rank : Fin rankLimit} {n : Int} (hne : n ≠ 0)
    (hrank : unitsOfRank rank ≤ unitsOfOne * 2 ^ 62 * n.natAbs) {digits : Int}
    (hdigits : digits ≤ 2) : ∃ x,
      figure (Decimal.roundFloat? (div (.finite negative rank) (ofRatio n 1)) digits) = .ok x := by
  obtain ⟨sign, hdiv⟩ | ⟨sign, den, hdiv, hden⟩ := div_by_int negative rank hne
  · have hnone : unitsOfRank (⟨0, by decide⟩ : Fin rankLimit) ≤ unitsOfOne * 2 ^ 64 := Nat.zero_le _
    obtain ⟨x, hx⟩ := Decimal.round_float_some sign hnone hdigits
    exact ⟨x, by rw [hdiv, zero, hx]; rfl⟩
  · rw [hdiv]
    refine quotient_figure sign ?_ hdigits
    generalize unitsOfOne = one at hrank hden ⊢
    calc one * unitsOfRank rank
      _ ≤ one * (one * 2 ^ 62 * n.natAbs) := Nat.mul_le_mul_left _ hrank
      _ = one * 2 ^ 62 * (one * n.natAbs) := by ring
      _ ≤ one * 2 ^ 62 * (2 * den) := Nat.mul_le_mul_left _ hden
      _ = one * 2 ^ 63 * den := by ring

/-- The average of values below two to the power 53 in magnitude has a figure. -/
theorem average_figure {values : List Int} (hsome : values ≠ [])
    (hvalues : ∀ value ∈ values, value.natAbs < 2 ^ 53) :
    ∃ x, figure (Decimal.roundFloat? (average values) 1) = .ok x := by
  have hne : (values.length : Int) ≠ 0 := by
    exact_mod_cast List.length_pos_of_ne_nil hsome |>.ne'
  have hsteady := RunningSum.fold_steady hvalues RunningSum.start_steady
  rw [Nat.zero_add] at hsteady
  obtain ⟨sum, ⟨s, a, hsum, rfl⟩, hbound⟩ := hsteady.sum_le
  rw [nat_abs_signed_units] at hbound
  unfold average
  dsimp only
  rw [hsum]
  refine quotient_by_int_figure s hne ?_ (by decide)
  unfold valueLimit at hbound
  rw [Int.natAbs_natCast]
  generalize unitsOfOne = one at hbound ⊢
  calc unitsOfRank a
    _ ≤ values.length * (2 ^ 9 * (one * 2 ^ 53)) := hbound
    _ = one * 2 ^ 62 * values.length := by ring

/-- The quotient of an integer below two to the power 53 in magnitude is a finite number, which is
at most as large as twice that power. -/
theorem divide_ints_moderate {a b : Int} (ha : a.natAbs < 2 ^ 53) (hb : b ≠ 0) :
    ∃ negative rank, Payload.divideInts a b = .ok (.finite negative rank) ∧
      unitsOfRank rank ≤ unitsOfOne * 2 ^ 54 := by
  have hquotient : unitsOfOne * a.natAbs ≤ unitsOfOne * 2 ^ 53 * b.natAbs := by
    rw [Nat.mul_assoc]
    exact Nat.mul_le_mul_left _ (ha.le.trans (Nat.le_mul_of_pos_right _ (Int.natAbs_pos.mpr hb)))
  obtain ⟨rank, hnumber, -, hunits⟩ := of_unit_ratio_finite (decide (a < 0) != decide (b < 0))
    (by decide : 53 ≤ 200) hquotient
  rw [show 53 + 1 = 54 from rfl] at hunits
  refine ⟨decide (a < 0) != decide (b < 0), rank, ?_, hunits⟩
  rw [Payload.divideInts, ofQuotient, hnumber]
  rfl

/-- The share of an integer below two to the power 53 in magnitude has a figure. -/
theorem cpu_share_ok {cpuTime : Int} (hcpu : cpuTime.natAbs < 2 ^ 53) (runTime : Int) :
    ∃ share, cpuShare (.int cpuTime) (.int runTime) = .ok share := by
  unfold cpuShare
  split
  · next htruthy =>
      have hne : runTime ≠ 0 := by
        simpa [Payload.isTruthy] using htruthy
      obtain ⟨sign, rank, hdivide, hunits⟩ := divide_ints_moderate hcpu hne
      obtain ⟨negative, factor, hfactor, hhundred⟩ := @of_ratio_magnitude 100 (by decide)
      rw [show (100 : Int).natAbs = 100 from rfl] at hhundred
      have hscaled : unitsOfRank rank * unitsOfRank factor ≤ unitsOfOne * 2 ^ 63 * unitsOfOne := by
        rw [hhundred]
        generalize unitsOfOne = one at hunits ⊢
        calc unitsOfRank rank * (one * 100)
          _ ≤ one * 2 ^ 54 * (one * 100) := Nat.mul_le_mul_right _ hunits
          _ = one * (2 ^ 54 * 100) * one := by ring
          _ ≤ one * 2 ^ 63 * one :=
            Nat.mul_le_mul_right _ (Nat.mul_le_mul_left _ (by decide))
      obtain ⟨x, hx⟩ := quotient_figure (sign != negative) hscaled (le_refl 2)
      refine ⟨some x, bind_eq_ok_iff.mpr ⟨_, hdivide, map_eq_ok_iff.mpr ⟨x, ?_, rfl⟩⟩⟩
      rw [hfactor]
      exact hx
  · exact ⟨none, rfl⟩

/-! ## Groups of tasks -/

/-- Values below two to the power 53 in magnitude, with a total below it, are rolled up in every
way. -/
theorem aggregate_ok {type : SumType} (way : Aggregation) {values : List Int} (hsome : values ≠ [])
    (hvalues : ∀ value ∈ values, value.natAbs < 2 ^ 53)
    (htotal : (type.wrap (total values)).natAbs < 2 ^ 53) :
    ∃ x, aggregate type way values = .ok x := by
  have hfigure {n : Int} (hn : n.natAbs < 2 ^ 53) :
      ∃ x, figure (Decimal.roundInt? n 1) = .ok x := by
    obtain ⟨x, hx, -⟩ := Decimal.round_int_exact hn
    exact ⟨x, by rw [hx]; rfl⟩
  cases way with
  | sum => exact hfigure htotal
  | max =>
      obtain ⟨largest, hlargest⟩ :=
        Option.ne_none_iff_exists'.mp (mt List.max?_eq_none_iff.mp hsome)
      simp only [aggregate, hlargest, Option.getD_some]
      exact hfigure (hvalues _ (List.max?_mem hlargest))
  | min =>
      obtain ⟨smallest, hsmallest⟩ :=
        Option.ne_none_iff_exists'.mp (mt List.min?_eq_none_iff.mp hsome)
      simp only [aggregate, hsmallest, Option.getD_some]
      exact hfigure (hvalues _ (List.min?_mem hsmallest))
  | average => exact average_figure hsome hvalues

end SparkLog.Metrics
