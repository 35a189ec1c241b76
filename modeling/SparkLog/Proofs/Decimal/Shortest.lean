import Mathlib
import SparkLog.Proofs.Decimal.HalfUp

/-!
# Shortest decimals lie in their intervals

A grid whose steps are less than the width of a rounding interval has a point in it
(`grid_point_of_wide`), and the grid of seventeen digits is one: so the shortest decimal of a number
lies in its rounding interval (`shortest_mem_interval`), and its exponent and its value are not out
of range (`shortest_range`). A number below two to the power 64 has a figure with up to two places
(`round_float_some`).
-/

namespace SparkLog

namespace Binary64

/-! ## Distances of magnitudes -/

/-- A magnitude past the first binade has a significand and a power of two. -/
theorem exists_significand {rank : Nat} (h : binade ≤ rank) :
    ∃ shift n, binade ≤ n ∧ n < 2 * binade ∧ rank = shift * binade + n := by
  have hbinade : 0 < binade := by decide
  have hquotient : 1 ≤ rank / binade := (Nat.one_le_div_iff hbinade).mpr h
  refine ⟨rank / binade - 1, binade + rank % binade, Nat.le_add_right _ _, ?_, ?_⟩
  · have hrest := Nat.mod_lt rank hbinade
    omega
  · have hwhole := Nat.div_add_mod' rank binade
    have hmul : (rank / binade - 1) * binade + binade = rank / binade * binade := by
      rw [← Nat.succ_mul, Nat.succ_eq_add_one, Nat.sub_add_cancel hquotient]
    omega

/-- The magnitude at the upper end of a binade is the first one of the next. -/
theorem units_of_rank_next (shift : Nat) {n : Nat} (hlow : binade ≤ n) (hhigh : n ≤ 2 * binade) :
    unitsOfRank (shift * binade + n) = n * 2 ^ shift := by
  obtain hlt | rfl := Nat.lt_or_eq_of_le hhigh
  · exact units_of_rank_binade shift hlow hlt
  · have hrank : shift * binade + 2 * binade = (shift + 1) * binade + binade := by
      rw [Nat.add_mul, Nat.two_mul, Nat.one_mul, Nat.add_assoc]
    rw [hrank, units_of_rank_binade (shift + 1) (Nat.le_refl _) (by decide), pow_succ]
    ring

/-- Magnitudes in the first binade and its upper end. -/
theorem units_of_rank_small {rank : Nat} (h : rank ≤ binade) : unitsOfRank rank = rank := by
  obtain hlt | rfl := Nat.lt_or_eq_of_le h
  · exact if_pos hlt
  · decide +kernel

/-- The next magnitude is farther than the spacing of its neighbours is from it. -/
theorem units_of_rank_spacing (rank : Nat) : unitsOfRank rank < unitsOfRank (rank + 1) ∧
    unitsOfRank (rank + 1) ≤ 2 * unitsOfRank rank + 1 := by
  obtain hsmall | hlarge := Nat.lt_or_ge rank binade
  · rw [units_of_rank_small hsmall.le, units_of_rank_small hsmall]
    omega
  · obtain ⟨shift, n, hlow, hhigh, rfl⟩ := exists_significand hlarge
    rw [units_of_rank_next shift hlow hhigh.le, Nat.add_assoc,
      units_of_rank_next shift (by omega) (by omega)]
    have hpow := Nat.two_pow_pos shift
    have hn : 1 ≤ n := Nat.le_trans (by decide) hlow
    constructor <;> nlinarith

/-- Magnitudes are in the order of their ranks. -/
theorem units_of_rank_strict_mono : StrictMono unitsOfRank :=
  strictMono_nat_of_lt_succ fun rank => (units_of_rank_spacing rank).1

/-- The neighbours of a magnitude are apart by its 53rd binary digit at least. -/
theorem units_of_rank_wide {rank : Nat} (hpos : 0 < rank) :
    2 * unitsOfRank rank + 2 ^ 53 * unitsOfRank (rank - 1) ≤ 2 ^ 53 * unitsOfRank (rank + 1) := by
  have hbinade : binade = 2 ^ 52 := by decide
  obtain hsmall | hlarge := Nat.lt_or_ge rank binade
  · rw [units_of_rank_small hsmall.le, units_of_rank_small hsmall,
      units_of_rank_small (by omega)]
    omega
  · obtain ⟨shift, n, hlow, hhigh, rfl⟩ := exists_significand hlarge
    have hbefore := units_of_rank_strict_mono.monotone (Nat.sub_le (shift * binade + n) 1)
    rw [units_of_rank_next shift hlow hhigh.le] at hbefore ⊢
    rw [Nat.add_assoc, units_of_rank_next shift (by omega) (by omega)]
    -- The spacing doubles at the lower end of a binade, so there the magnitude before is nearer.
    obtain rfl | hinner := Nat.eq_or_lt_of_le hlow
    · rw [hbinade] at hbefore ⊢
      omega
    · rw [Nat.add_sub_assoc (by omega), units_of_rank_next shift (by omega) (by omega)]
      have hsignificand : 2 * n + 2 ^ 53 * (n - 1) ≤ 2 ^ 53 * (n + 1) := by
        rw [hbinade] at hhigh
        omega
      calc 2 * (n * 2 ^ shift) + 2 ^ 53 * ((n - 1) * 2 ^ shift)
        _ = (2 * n + 2 ^ 53 * (n - 1)) * 2 ^ shift := by ring
        _ ≤ (2 ^ 53 * (n + 1)) * 2 ^ shift := Nat.mul_le_mul_right _ hsignificand
        _ = 2 ^ 53 * ((n + 1) * 2 ^ shift) := by ring

end Binary64

namespace Decimal

open Binary64

/-! ## Grids -/

/-- How many half units a power of ten is. -/
def halfUnits (exponent : Int) : ℚ :=
  2 * unitsOfOne * 10 ^ exponent

/-- Powers of ten are positive. -/
theorem half_units_pos (exponent : Int) : 0 < halfUnits exponent := by
  have hunits : (0 : ℚ) < unitsOfOne := by exact_mod_cast units_of_one_pos
  have hpower : (0 : ℚ) < 10 ^ exponent := by positivity
  exact mul_pos (mul_pos two_pos hunits) hpower

/-- Half units in a power of ten are told by a quotient. -/
theorem half_units_eq (exponent : Int) : 0 < (halfUnitsOfPower exponent).2 ∧
    ((halfUnitsOfPower exponent).1 : ℚ) =
      halfUnits exponent * (halfUnitsOfPower exponent).2 := by
  unfold halfUnitsOfPower halfUnits
  generalize unitsOfOne = one
  split
  · next hexponent =>
      obtain ⟨k, rfl⟩ := Int.eq_ofNat_of_zero_le hexponent
      refine ⟨Nat.one_pos, ?_⟩
      rw [Int.toNat_natCast, Nat.pow_eq, zpow_natCast]
      push_cast
      ring
  · next hexponent =>
      obtain ⟨k, rfl⟩ : ∃ k : Nat, exponent = -k := ⟨(-exponent).toNat, by omega⟩
      have hpow : (10 : ℚ) ^ k ≠ 0 := by positivity
      refine ⟨Nat.pow_pos (by decide), ?_⟩
      rw [neg_neg, Int.toNat_natCast, Nat.pow_eq, zpow_neg, zpow_natCast]
      push_cast
      field_simp

/-- Whether a point of a grid is at most a bound is told in the integers. -/
theorem point_le_iff {exponent : Int} {n bound : Nat} :
    n * (halfUnitsOfPower exponent).1 ≤ bound * (halfUnitsOfPower exponent).2 ↔
      n * halfUnits exponent ≤ (bound : ℚ) := by
  obtain ⟨hden, hnum⟩ := half_units_eq exponent
  have hpos : (0 : ℚ) < (halfUnitsOfPower exponent).2 := by exact_mod_cast hden
  rw [← mul_le_mul_iff_left₀ hpos, mul_assoc, ← hnum]
  exact_mod_cast Iff.rfl

/-- Whether a point of a grid is at least a bound is told in the integers. -/
theorem le_point_iff {exponent : Int} {n bound : Nat} :
    bound * (halfUnitsOfPower exponent).2 ≤ n * (halfUnitsOfPower exponent).1 ↔
      (bound : ℚ) ≤ n * halfUnits exponent := by
  obtain ⟨hden, hnum⟩ := half_units_eq exponent
  have hpos : (0 : ℚ) < (halfUnitsOfPower exponent).2 := by exact_mod_cast hden
  rw [← mul_le_mul_iff_left₀ hpos, mul_assoc, ← hnum]
  exact_mod_cast Iff.rfl

/-- What an interval contains is between its ends. -/
theorem bounds_of_contains {interval : RoundingInterval} {exponent : Int} {n : Nat}
    (h : interval.contains (n * (halfUnitsOfPower exponent).1) (halfUnitsOfPower exponent).2 =
      true) :
    (interval.lower : ℚ) ≤ n * halfUnits exponent ∧
      n * halfUnits exponent ≤ (interval.upper : ℚ) := by
  rw [← le_point_iff, ← point_le_iff]
  unfold RoundingInterval.contains at h
  split at h <;> simp only [Bool.and_eq_true, decide_eq_true_eq] at h <;> omega

/-- What an interval does not contain is not between its ends. -/
theorem outside_of_not_contains {interval : RoundingInterval} {exponent : Int} {n : Nat}
    (h : interval.contains (n * (halfUnitsOfPower exponent).1) (halfUnitsOfPower exponent).2 =
      false) :
    n * halfUnits exponent ≤ (interval.lower : ℚ) ∨
      (interval.upper : ℚ) ≤ n * halfUnits exponent := by
  rw [← le_point_iff, ← point_le_iff]
  unfold RoundingInterval.contains at h
  split at h <;> simp only [Bool.and_eq_false_iff, decide_eq_false_iff_not] at h <;> omega

/-- A point of a grid is in the interval that it was looked for in. -/
theorem grid_point_mem {interval : RoundingInterval} {exponent : Int} {n : Nat}
    (h : gridPoint? interval exponent = some n) :
    (interval.lower : ℚ) ≤ n * halfUnits exponent ∧
      n * halfUnits exponent ≤ (interval.upper : ℚ) := by
  refine bounds_of_contains ?_
  unfold gridPoint? at h
  dsimp only at h
  split at h
  · next hbelow habove =>
      -- Both neighbours of the middle are in the interval, and the point is one of them.
      split at h
      · exact Option.some.inj h ▸ hbelow
      · split at h
        · exact Option.some.inj h ▸ habove
        · obtain hparity | hparity := Nat.mod_two_eq_zero_or_one
            (interval.middle * (halfUnitsOfPower exponent).2 / (halfUnitsOfPower exponent).1)
          · rw [hparity, Nat.add_zero] at h
            exact Option.some.inj h ▸ hbelow
          · rw [hparity] at h
            exact Option.some.inj h ▸ habove
  · next hbelow _ => exact Option.some.inj h ▸ hbelow
  · next _ habove => exact Option.some.inj h ▸ habove
  · cases h

/-- Where a grid has no point in an interval, the two points next to the middle are outside. -/
theorem neighbours_of_no_grid_point {interval : RoundingInterval} {exponent : Int}
    (h : gridPoint? interval exponent = none) :
    ∃ below : Nat, below * halfUnits exponent ≤ (interval.middle : ℚ) ∧
      interval.middle < (below + 1 : Nat) * halfUnits exponent ∧
      interval.contains (below * (halfUnitsOfPower exponent).1) (halfUnitsOfPower exponent).2 =
        false ∧
      interval.contains ((below + 1) * (halfUnitsOfPower exponent).1)
        (halfUnitsOfPower exponent).2 = false := by
  obtain ⟨hden, hnum⟩ := half_units_eq exponent
  have hnumPos : 0 < (halfUnitsOfPower exponent).1 := by
    have hpos := mul_pos (half_units_pos exponent) (Nat.cast_pos.mpr hden)
    rw [← hnum] at hpos
    exact_mod_cast hpos
  unfold gridPoint? at h
  dsimp only at h
  split at h
  · split at h
    · cases h
    · split at h <;> cases h
  · cases h
  · cases h
  · next hbelow habove =>
      refine ⟨_, point_le_iff.mp (Nat.div_mul_le_self _ _), ?_, hbelow, habove⟩
      refine (lt_iff_lt_of_le_iff_le point_le_iff).mp ?_
      rw [Nat.mul_comm _ (halfUnitsOfPower exponent).1]
      exact Nat.lt_mul_div_succ _ hnumPos

/-- A grid with steps that are less than the width of an interval has a point in it. -/
theorem grid_point_of_wide {interval : RoundingInterval} (hlower : interval.lower < interval.middle)
    (hupper : interval.middle < interval.upper) {exponent : Int}
    (hwide : interval.lower + halfUnits exponent < (interval.upper : ℚ)) :
    gridPoint? interval exponent ≠ none := by
  intro hnone
  obtain ⟨below, hbelow, habove, houtside, houtside'⟩ := neighbours_of_no_grid_point hnone
  have hlower' : (interval.lower : ℚ) < interval.middle := by exact_mod_cast hlower
  have hupper' : (interval.middle : ℚ) < interval.upper := by exact_mod_cast hupper
  have hfirst := (outside_of_not_contains houtside).resolve_right
    (not_le.mpr (hbelow.trans_lt hupper'))
  have hsecond := (outside_of_not_contains houtside').resolve_left
    (not_le.mpr (hlower'.trans habove))
  rw [Nat.cast_succ, add_mul, one_mul] at hsecond
  linarith

/-! ## Seventeen digits -/

/-- Powers of ten that are not above a magnitude are not more than it. -/
theorem half_units_le {exponent : Int} {middle : Nat}
    (h : ¬ middle * (halfUnitsOfPower exponent).2 < (halfUnitsOfPower exponent).1) :
    halfUnits exponent ≤ (middle : ℚ) := by
  have hone := (@point_le_iff exponent 1 middle).mp
  rw [Nat.one_mul, Nat.cast_one, one_mul] at hone
  exact hone (not_lt.mp h)

/-- The decimal point that the logarithm to base two tells is not too high. -/
def guessFits (log : Nat) : Bool :=
  let quotient := halfUnitsOfPower ((((log : Int) - 1075) * 30103).fdiv 100000 - 1)
  Nat.ble quotient.1 (Nat.pow 2 log * quotient.2)

/-- The power of ten in front of the decimal point is at most the magnitude. -/
theorem decimal_point_le {middle : Nat} (hpos : 0 < middle) (hlog : middle.log2 < 2200) :
    halfUnits (decimalPoint middle - 1) ≤ (middle : ℚ) := by
  -- The guess from the logarithm is checked for every logarithm that a finite number can have.
  have hall : (List.range 2200).all guessFits = true := by decide +kernel
  unfold decimalPoint
  dsimp only
  split
  · have hguess := List.all_eq_true.mp hall _ (List.mem_range.mpr hlog)
    refine half_units_le (not_lt.mpr ?_)
    refine le_trans (Nat.le_of_ble_eq_true hguess) (Nat.mul_le_mul_right _ ?_)
    exact Nat.log2_self_le (Nat.ne_of_gt hpos)
  · split
    · next hguess _ =>
        rw [add_sub_cancel_right]
        exact half_units_le (by simpa using hguess)
    · next _ hguess =>
        rw [add_sub_assoc]
        exact half_units_le (by simpa using hguess)

/-- Every digit more of a grid takes its steps to a tenth. -/
theorem half_units_add (exponent : Int) (count : Nat) :
    halfUnits (exponent + count) = 10 ^ count * halfUnits exponent := by
  rw [halfUnits, halfUnits, zpow_add₀ (by norm_num), zpow_natCast]
  ring

/-- Taking zeros off a coefficient keeps its value. -/
theorem strip_zeros_value (fuel coefficient : Nat) (exponent : Int) :
    ((stripZeros fuel coefficient exponent).1 : ℚ) *
        halfUnits (stripZeros fuel coefficient exponent).2 =
      coefficient * halfUnits exponent := by
  induction fuel generalizing coefficient exponent with
  | zero => rfl
  | succ fuel ih =>
      rw [stripZeros]
      split
      · next hzero =>
          have htens : coefficient = coefficient / 10 * 10 :=
            (Nat.div_mul_cancel (Nat.dvd_of_mod_eq_zero hzero.2)).symm
          have hcast : (coefficient : ℚ) = (coefficient / 10 : Nat) * 10 := by exact_mod_cast htens
          have htenfold := half_units_add exponent 1
          rw [Nat.cast_one, pow_one] at htenfold
          rw [ih, htenfold, hcast]
          ring
      · rfl

/-- The first grid point is in the interval if one of the grids has one. -/
theorem first_grid_point_mem {interval : RoundingInterval} {point : Int} {fuel count : Nat}
    (h : ∃ more < fuel, gridPoint? interval (point - (count + more : Nat)) ≠ none) :
    (interval.lower : ℚ) ≤ (firstGridPoint interval point fuel count).1 *
        halfUnits (firstGridPoint interval point fuel count).2 ∧
      (firstGridPoint interval point fuel count).1 *
        halfUnits (firstGridPoint interval point fuel count).2 ≤ (interval.upper : ℚ) := by
  induction fuel generalizing count with
  | zero =>
      obtain ⟨more, hmore, -⟩ := h
      omega
  | succ fuel ih =>
      obtain ⟨more, hmore, hsome⟩ := h
      rw [firstGridPoint]
      cases hfound : gridPoint? interval (point - count) with
      | some n => exact grid_point_mem hfound
      | none =>
          cases more with
          | zero => exact absurd hfound hsome
          | succ more =>
              refine ih ⟨more, Nat.lt_of_succ_lt_succ hmore, ?_⟩
              rwa [Nat.add_right_comm]

/-- The middle of a rounding interval of a finite number is not out of the range of powers. -/
theorem log2_middle_lt {rank : Nat} (hpos : 0 < rank) (hrank : rank < rankLimit) :
    (2 * unitsOfRank rank).log2 < 2200 := by
  obtain ⟨shift, hlimit, hshift⟩ : ∃ shift, rankLimit = shift * binade + binade ∧ shift ≤ 2100 :=
    ⟨2046, by decide, by decide⟩
  have hunits : 0 < unitsOfRank rank := units_of_rank_strict_mono hpos
  have hlast : unitsOfRank rank < 2 ^ 52 * 2 ^ shift := by
    have hlt := units_of_rank_strict_mono hrank
    rw [hlimit, units_of_rank_next shift (Nat.le_refl _) (by decide)] at hlt
    exact hlt
  rw [Nat.log2_lt (by omega)]
  calc 2 * unitsOfRank rank
    _ < 2 * (2 ^ 52 * 2 ^ shift) := by omega
    _ = 2 ^ (1 + (52 + shift)) := by rw [pow_add, pow_add, pow_one]
    _ ≤ 2 ^ 2200 := Nat.pow_le_pow_right Nat.two_pos (by omega)

/-- The steps of the seventeenth grid are less than the width of a rounding interval. -/
theorem seventeenth_grid_narrow {rank : Nat} (hpos : 0 < rank) (hrank : rank < rankLimit) :
    (RoundingInterval.ofRank rank).lower +
        halfUnits (decimalPoint (2 * unitsOfRank rank) - (1 + 16 : Nat)) <
      ((RoundingInterval.ofRank rank).upper : ℚ) := by
  have hbefore : unitsOfRank (rank - 1) < unitsOfRank rank := units_of_rank_strict_mono (by omega)
  have hafter := (units_of_rank_spacing rank).1
  have hpoint := decimal_point_le (by omega : 0 < 2 * unitsOfRank rank) (log2_middle_lt hpos hrank)
  have hsteps := half_units_add (decimalPoint (2 * unitsOfRank rank) - (1 + 16 : Nat)) 16
  have hexponent : decimalPoint (2 * unitsOfRank rank) - (1 + 16 : Nat) + (16 : Nat) =
      decimalPoint (2 * unitsOfRank rank) - 1 := by
    push_cast
    ring
  rw [hexponent] at hsteps
  rw [hsteps] at hpoint
  have hwide : ((2 * unitsOfRank rank + 2 ^ 53 * unitsOfRank (rank - 1) : Nat) : ℚ) ≤
      (2 ^ 53 * unitsOfRank (rank + 1) : Nat) := by
    exact_mod_cast units_of_rank_wide hpos
  have hends : (unitsOfRank (rank - 1) : ℚ) < unitsOfRank (rank + 1) := by
    exact_mod_cast hbefore.trans hafter
  show ((unitsOfRank (rank - 1) + unitsOfRank rank : Nat) : ℚ) + _ <
    (unitsOfRank rank + unitsOfRank (rank + 1) : Nat)
  push_cast at hwide hpoint ⊢
  linarith

/-- The shortest decimal of a number lies in its rounding interval. -/
theorem shortest_mem_interval (negative : Bool) {rank : Nat} (hpos : 0 < rank)
    (hrank : rank < rankLimit) :
    ((RoundingInterval.ofRank rank).lower : ℚ) ≤
        (shortest negative rank).coefficient * halfUnits (shortest negative rank).exponent ∧
      (shortest negative rank).coefficient * halfUnits (shortest negative rank).exponent ≤
        ((RoundingInterval.ofRank rank).upper : ℚ) := by
  have hbefore : unitsOfRank (rank - 1) < unitsOfRank rank :=
    units_of_rank_strict_mono (by omega)
  have hafter := (units_of_rank_spacing rank).1
  have hgrid : gridPoint? (RoundingInterval.ofRank rank)
      (decimalPoint (2 * unitsOfRank rank) - (1 + 16 : Nat)) ≠ none := by
    refine grid_point_of_wide ?_ ?_ (seventeenth_grid_narrow hpos hrank)
    · show unitsOfRank (rank - 1) + unitsOfRank rank < 2 * unitsOfRank rank
      omega
    · show 2 * unitsOfRank rank < unitsOfRank rank + unitsOfRank (rank + 1)
      omega
  have hmem := @first_grid_point_mem _ _ 17 1 ⟨16, by decide, hgrid⟩
  have hvalue := strip_zeros_value 20
    (firstGridPoint (RoundingInterval.ofRank rank) (decimalPoint (2 * unitsOfRank rank)) 17 1).1
    (firstGridPoint (RoundingInterval.ofRank rank) (decimalPoint (2 * unitsOfRank rank)) 17 1).2
  rw [← hvalue] at hmem
  have hne : rank ≠ 0 := Nat.ne_of_gt hpos
  unfold shortest
  rw [if_neg hne]
  exact hmem

/-! ## Range -/

/-- Zeros that are taken off raise the exponent by one each. -/
theorem strip_zeros_exponent (fuel coefficient : Nat) (exponent : Int) :
    exponent ≤ (stripZeros fuel coefficient exponent).2 ∧
      (stripZeros fuel coefficient exponent).2 ≤ exponent + fuel := by
  induction fuel generalizing coefficient exponent with
  | zero => simp [stripZeros]
  | succ fuel ih =>
      rw [stripZeros]
      split
      · have hrest := ih (coefficient / 10) (exponent + 1)
        omega
      · exact ⟨le_rfl, by omega⟩

/-- The exponent of the first grid point is that of one of the grids. -/
theorem first_grid_point_exponent (interval : RoundingInterval) (point : Int) (fuel count : Nat) :
    point - (count + fuel) ≤ (firstGridPoint interval point fuel count).2 ∧
      (firstGridPoint interval point fuel count).2 ≤ point - count := by
  induction fuel generalizing count with
  | zero => simp [firstGridPoint]
  | succ fuel ih =>
      rw [firstGridPoint]
      split
      · exact ⟨by omega, le_rfl⟩
      · have hrest := ih (count + 1)
        omega

/-- The decimal point of a finite number is not out of range. -/
theorem decimal_point_range {middle : Nat} (hlog : middle.log2 < 2200) :
    -400 ≤ decimalPoint middle ∧ decimalPoint middle ≤ 400 := by
  have hguess : -350 ≤ (((middle.log2 : Int) - 1075) * 30103).fdiv 100000 ∧
      (((middle.log2 : Int) - 1075) * 30103).fdiv 100000 ≤ 350 := by
    rw [Int.fdiv_eq_ediv_of_nonneg _ (by decide)]
    omega
  unfold decimalPoint
  dsimp only
  split_ifs <;> omega

/-- Three binary digits are less than one decimal digit. -/
theorem two_mul_le_of_log2_lt {n k m : Nat} (hn : n ≠ 0) (hlog : n.log2 < k)
    (hk : k + 1 ≤ 3 * m) : 2 * n ≤ 10 ^ m :=
  calc 2 * n
    _ ≤ 2 ^ (k + 1) := by
      rw [pow_succ']
      exact Nat.mul_le_mul_left 2 ((Nat.log2_lt hn).mp hlog).le
    _ ≤ 2 ^ (3 * m) := Nat.pow_le_pow_right Nat.two_pos hk
    _ ≤ 10 ^ m := by
      rw [pow_mul]
      exact Nat.pow_le_pow_left (by decide) m

/-- The upper end of a rounding interval of a finite number is not out of the range of powers. -/
theorem upper_of_rank_le {rank : Nat} (hpos : 0 < rank) (hrank : rank < rankLimit) :
    (RoundingInterval.ofRank rank).upper ≤ 10 ^ 734 := by
  have hunits : 0 < unitsOfRank rank := units_of_rank_strict_mono hpos
  have hspacing := (units_of_rank_spacing rank).2
  calc unitsOfRank rank + unitsOfRank (rank + 1)
    _ ≤ 2 * (2 * unitsOfRank rank) := by omega
    _ ≤ 10 ^ 734 :=
      two_mul_le_of_log2_lt (by omega) (log2_middle_lt hpos hrank) (by decide)

/-- The shortest decimal of a finite number has a small exponent, and its value is not large. -/
theorem shortest_range (negative : Bool) (rank : Fin rankLimit) :
    (shortest negative rank).exponent.natAbs ≤ 500 ∧
      (shortest negative rank).coefficient * (10 : ℚ) ^ (shortest negative rank).exponent ≤
        10 ^ 734 := by
  obtain hzero | hpos := Nat.eq_zero_or_pos rank.val
  · rw [hzero]
    simp [shortest]
  constructor
  · have hpoint : -400 ≤ decimalPoint (RoundingInterval.ofRank rank).middle ∧
        decimalPoint (RoundingInterval.ofRank rank).middle ≤ 400 :=
      decimal_point_range (log2_middle_lt hpos rank.isLt)
    rw [shortest, if_neg (Nat.ne_of_gt hpos)]
    dsimp only
    generalize RoundingInterval.ofRank rank = interval at hpoint ⊢
    generalize decimalPoint interval.middle = point at hpoint ⊢
    have hgrid := first_grid_point_exponent interval point 17 1
    have hstrip := strip_zeros_exponent 20 (firstGridPoint interval point 17 1).1
      (firstGridPoint interval point 17 1).2
    omega
  · have hone : (1 : ℚ) ≤ 2 * unitsOfOne := by
      have hpos : (1 : ℚ) ≤ unitsOfOne := by exact_mod_cast units_of_one_pos
      linarith
    calc (shortest negative rank).coefficient * (10 : ℚ) ^ (shortest negative rank).exponent
      _ ≤ (shortest negative rank).coefficient *
          (2 * unitsOfOne * 10 ^ (shortest negative rank).exponent) :=
        mul_le_mul_of_nonneg_left (le_mul_of_one_le_left (by positivity) hone) (by positivity)
      _ ≤ (RoundingInterval.ofRank rank).upper :=
        (shortest_mem_interval negative hpos rank.isLt).2
      _ ≤ (10 ^ 734 : ℕ) := Nat.cast_le.mpr (upper_of_rank_le hpos rank.isLt)
      _ = 10 ^ 734 := Nat.cast_pow 10 734

/-! ## Figures -/

/-- The shortest decimal of a number below two to the power 64 is not much larger. -/
theorem abs_shortest_le (negative : Bool) {rank : Fin rankLimit}
    (hrank : unitsOfRank rank ≤ unitsOfOne * 2 ^ 64) :
    |(shortest negative rank).value| ≤ 2 ^ 66 := by
  rw [abs_value]
  obtain hzero | hpos := Nat.eq_zero_or_pos rank.val
  · have hcoefficient : (shortest negative rank).coefficient = 0 := by
      rw [hzero]
      rfl
    rw [hcoefficient, Nat.cast_zero, zero_mul]
    positivity
  · obtain ⟨-, hupper⟩ := shortest_mem_interval negative hpos rank.isLt
    have hends : (RoundingInterval.ofRank rank).upper ≤ 3 * (unitsOfOne * 2 ^ 64) + 1 := by
      have hspacing := (units_of_rank_spacing rank).2
      show unitsOfRank rank + unitsOfRank (rank + 1) ≤ _
      omega
    have hone : 1 ≤ unitsOfOne := units_of_one_pos
    have hscaled : (shortest negative rank).coefficient *
        (2 * unitsOfOne * (10 : ℚ) ^ (shortest negative rank).exponent) ≤
          3 * (unitsOfOne * 2 ^ 64) + 1 := hupper.trans (by exact_mod_cast hends)
    generalize unitsOfOne = one at hscaled hone
    have hcast : (1 : ℚ) ≤ one := by exact_mod_cast hone
    refine le_of_mul_le_mul_left ?_ (show (0 : ℚ) < 2 * one by linarith)
    linarith

/-- A number below two to the power 64 has a figure with up to two places. -/
theorem round_float_some (negative : Bool) {rank : Fin rankLimit} {digits : Int}
    (hrank : unitsOfRank rank ≤ unitsOfOne * 2 ^ 64) (hdigits : digits ≤ 2) :
    ∃ x, roundFloat? (.finite negative rank) digits = some x := by
  have hpower : (10 : ℚ) ^ digits ≤ 10 ^ (2 : Int) := zpow_le_zpow_right₀ (by norm_num) hdigits
  have hsmall : |(shortest negative rank).value| * 10 ^ digits + 1 / 2 < 10 ^ precision :=
    calc |(shortest negative rank).value| * 10 ^ digits + 1 / 2
      _ ≤ 2 ^ 66 * 10 ^ (2 : Int) + 1 / 2 := by
        gcongr
        exact abs_shortest_le negative hrank
      _ < 10 ^ precision := by norm_num [precision]
  obtain ⟨rounded, hrounded⟩ := quantize_of_small hsmall
  rw [roundFloat?, hrounded]
  exact ⟨_, rfl⟩

end Decimal

end SparkLog
