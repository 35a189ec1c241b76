import Mathlib
import SparkLog.Proofs.Decimal.Exact

/-!
# Rounding to a grid

A decimal that is brought to the grid of step `10 ^ -digits` becomes the nearest multiple of the
step, an exact half going away from zero, unless that has more than 28 digits
(`Decimal.quantize_eq`). So it depends on the value of the decimal and its sign alone.
-/

namespace SparkLog

/-! ## Halves away from zero -/

/-- The integer nearest to a rational number, a half going away from zero. -/
def halfAway (x : ℚ) : ℤ :=
  if x < 0 then -⌊-x + 1 / 2⌋ else ⌊x + 1 / 2⌋

section HalfAway

variable {x y : ℚ}

/-- From zero on, halves go up. -/
theorem half_away_of_nonneg (h : 0 ≤ x) : halfAway x = ⌊x + 1 / 2⌋ :=
  if_neg h.not_gt

/-- An integer is nearest to itself. -/
theorem half_away_int (n : ℤ) : halfAway n = n := by
  have hfloor (m : ℤ) : ⌊(m : ℚ) + 1 / 2⌋ = m := by
    rw [Int.floor_eq_iff]
    constructor <;> linarith
  unfold halfAway
  split_ifs
  · rw [← Int.cast_neg, hfloor, neg_neg]
  · exact hfloor n

/-- Below a half, the nearest integer is zero. -/
theorem half_away_of_lt_half (hx : 0 ≤ x) (h : x < 1 / 2) : halfAway x = 0 := by
  rw [half_away_of_nonneg hx, Int.floor_eq_iff]
  constructor <;> push_cast <;> linarith

/-- The integer nearest to a quotient is computed in the integers. -/
theorem half_away_div (num : ℕ) {den : ℕ} (hden : 0 < den) :
    halfAway (num / den) = Decimal.roundHalfUp num den := by
  have hhalf : (num / den : ℚ) + 1 / 2 = ((2 * num + den : ℕ) : ℚ) / (2 * den : ℕ) := by
    push_cast
    field_simp
  rw [half_away_of_nonneg (by positivity), hhalf, Rat.floor_natCast_div_natCast]
  rfl

/-- Of the opposite number, the opposite integer is nearest. -/
theorem half_away_neg (x : ℚ) : halfAway (-x) = -halfAway x := by
  obtain hlt | rfl | hgt := lt_trichotomy x 0
  · rw [half_away_of_nonneg (by linarith), halfAway, if_pos hlt, neg_neg]
  · have hzero : halfAway 0 = 0 := by exact_mod_cast half_away_int 0
    rw [neg_zero, hzero, neg_zero]
  · rw [half_away_of_nonneg hgt.le, halfAway, if_pos (by linarith), neg_neg]

/-- From zero on, the nearest integer is no farther below than a half, and not as far above. -/
theorem half_away_bounds (h : 0 ≤ x) : x - 1 / 2 < halfAway x ∧ (halfAway x : ℚ) ≤ x + 1 / 2 := by
  rw [half_away_of_nonneg h]
  exact ⟨by linarith [Int.lt_floor_add_one (x + 1 / 2)], Int.floor_le _⟩

/-- The nearest integer to a number from zero on is one. -/
theorem half_away_nonneg (h : 0 ≤ x) : 0 ≤ halfAway x := by
  rw [half_away_of_nonneg h, Int.floor_nonneg]
  linarith

/-- The nearest integer keeps the order. -/
theorem half_away_mono (h : x ≤ y) : halfAway x ≤ halfAway y := by
  have hnonneg {a b : ℚ} (ha : 0 ≤ a) (hab : a ≤ b) : halfAway a ≤ halfAway b := by
    rw [half_away_of_nonneg ha, half_away_of_nonneg (ha.trans hab)]
    exact Int.floor_le_floor (by linarith)
  obtain hx | hx := le_total 0 x
  · exact hnonneg hx h
  · obtain hy | hy := le_total 0 y
    · have hxneg := half_away_nonneg (neg_nonneg.mpr hx)
      have hyneg := half_away_nonneg hy
      rw [half_away_neg] at hxneg
      omega
    · have hneg := hnonneg (neg_nonneg.mpr hy) (neg_le_neg h)
      rw [half_away_neg, half_away_neg] at hneg
      omega

/-- No integer is farther away than a half. -/
theorem half_away_error (x : ℚ) : |x - halfAway x| ≤ 1 / 2 := by
  have hnonneg {a : ℚ} (ha : 0 ≤ a) : |a - halfAway a| ≤ 1 / 2 := by
    obtain ⟨hlow, hhigh⟩ := half_away_bounds ha
    rw [abs_le]
    constructor <;> linarith
  obtain hx | hx := le_total 0 x
  · exact hnonneg hx
  · have hneg := hnonneg (neg_nonneg.mpr hx)
    rwa [half_away_neg, Int.cast_neg, neg_sub_neg, abs_sub_comm] at hneg

/-- No integer is nearer. -/
theorem half_away_nearest (x : ℚ) (m : ℤ) : |x - halfAway x| ≤ |x - m| := by
  obtain rfl | hne := eq_or_ne m (halfAway x)
  · exact le_rfl
  · have hstep : (1 : ℚ) ≤ |(m : ℚ) - halfAway x| := by
      exact_mod_cast Int.one_le_abs (sub_ne_zero.mpr hne)
    have hsum : |(m : ℚ) - halfAway x| ≤ |x - m| + |x - halfAway x| := by
      rw [abs_sub_comm x m]
      exact abs_sub_le _ _ _
    linarith [half_away_error x]

/-- Of two nearest integers it is the one farther from zero. -/
theorem half_away_farther {m : ℤ} (hne : m ≠ halfAway x) (hsame : |x - m| = |x - halfAway x|) :
    |m| < |halfAway x| := by
  have hnonneg {a : ℚ} {m : ℤ} (ha : 0 ≤ a) (hne : m ≠ halfAway a)
      (hsame : |a - m| = |a - halfAway a|) : |m| < |halfAway a| := by
    obtain ⟨hlow, hhigh⟩ := half_away_bounds ha
    generalize halfAway a = n at hne hsame hlow hhigh ⊢
    -- The number lies half way between the two, and so the other one is next below.
    have hmiddle : 2 * a = m + n := by
      obtain h | h := abs_eq_abs.mp hsame
      · exact absurd (by exact_mod_cast (sub_right_injective h : (m : ℚ) = n)) hne
      · linarith
    have hle : n ≤ m + 1 := by
      have : (n : ℚ) ≤ m + 1 := by linarith
      exact_mod_cast this
    have hlt : m < n + 1 := by
      have : (m : ℚ) < n + 1 := by linarith
      exact_mod_cast this
    have hpos : 0 ≤ m + n := by
      have : (0 : ℚ) ≤ m + n := by linarith
      exact_mod_cast this
    rw [abs_of_nonneg (by omega), abs_of_nonneg (by omega)]
    omega
  obtain hx | hx := le_total 0 x
  · exact hnonneg hx hne hsame
  · have hneg := @hnonneg (-x) (-m) (neg_nonneg.mpr hx)
    rw [half_away_neg, Int.cast_neg, Int.cast_neg, neg_sub_neg, neg_sub_neg, abs_sub_comm,
      abs_sub_comm _ x, abs_neg, abs_neg] at hneg
    exact hneg (fun h => hne (neg_injective h)) hsame

end HalfAway

namespace Decimal

/-! ## Values -/

/-- The value of a decimal. -/
def value (d : Decimal) : ℚ :=
  signed d.negative d.coefficient * 10 ^ d.exponent

/-- The sign of a decimal is that of its value. -/
theorem value_eq (d : Decimal) :
    d.value = if d.negative then -(d.coefficient * 10 ^ d.exponent : ℚ)
      else d.coefficient * 10 ^ d.exponent := by
  unfold value signed
  split <;> simp

/-- The magnitude of a decimal. -/
theorem abs_value (d : Decimal) : |d.value| = d.coefficient * 10 ^ d.exponent := by
  have hnonneg : (0 : ℚ) ≤ d.coefficient * 10 ^ d.exponent := by positivity
  rw [value_eq]
  split
  · rw [abs_neg, abs_of_nonneg hnonneg]
  · rw [abs_of_nonneg hnonneg]

/-! ## Grids -/

/-- The steps of `10 ^ -digits` to the multiple that is nearest to a number. -/
def steps (digits : Int) (x : ℚ) : ℤ :=
  halfAway (x * 10 ^ digits)

/-- The steps to a multiple are those of which it is one. -/
theorem steps_of_multiple (digits n : ℤ) : steps digits (n * 10 ^ (-digits)) = n := by
  rw [steps, mul_assoc, ← zpow_add₀ (by norm_num), neg_add_cancel, zpow_zero, mul_one,
    half_away_int]

/-- The steps to a multiple are at most half a step more than the number has. -/
theorem abs_steps_le (digits : Int) (x : ℚ) :
    |(steps digits x : ℚ)| ≤ |x| * 10 ^ digits + 1 / 2 := by
  have hscale : |x * 10 ^ digits| = |x| * 10 ^ digits := by
    rw [abs_mul, abs_of_pos (by positivity : (0 : ℚ) < 10 ^ digits)]
  have hfarther := abs_sub_abs_le_abs_sub (halfAway (x * 10 ^ digits) : ℚ) (x * 10 ^ digits)
  rw [abs_sub_comm, hscale] at hfarther
  have herror := half_away_error (x * 10 ^ digits)
  rw [steps]
  linarith

/-- A number is brought to the nearest multiple of `10 ^ -digits`, and to the one farther from zero
of two that are equally near. -/
structure RoundsTo (digits : Int) (x r : ℚ) : Prop where
  multiple : ∃ n : ℤ, r = n * 10 ^ (-digits)
  nearest : ∀ n : ℤ, |x - r| ≤ |x - n * 10 ^ (-digits)|
  away : ∀ n : ℤ, (n * 10 ^ (-digits) : ℚ) ≠ r → |x - n * 10 ^ (-digits)| = |x - r| →
    |(n * 10 ^ (-digits) : ℚ)| < |r|

/-- A number is brought to the multiple of as many steps. -/
theorem rounds_to_steps (digits : Int) (x : ℚ) :
    RoundsTo digits x (steps digits x * 10 ^ (-digits)) := by
  have hstep : (0 : ℚ) < 10 ^ (-digits) := by positivity
  have hscale : x = x * 10 ^ digits * 10 ^ (-digits) := by
    rw [mul_assoc, ← zpow_add₀ (by norm_num), add_neg_cancel, zpow_zero, mul_one]
  have hdistance (n : ℤ) :
      |x - n * 10 ^ (-digits)| = |x * 10 ^ digits - n| * 10 ^ (-digits) := by
    nth_rewrite 1 [hscale]
    rw [← sub_mul, abs_mul, abs_of_pos hstep]
  refine ⟨⟨_, rfl⟩, fun n => ?_, fun n hne hsame => ?_⟩
  · rw [hdistance, hdistance]
    exact mul_le_mul_of_nonneg_right (half_away_nearest _ n) hstep.le
  · rw [hdistance, hdistance] at hsame
    have hother : n ≠ steps digits x := by
      rintro rfl
      exact hne rfl
    have hfarther := half_away_farther hother (mul_right_cancel₀ hstep.ne' hsame)
    rw [abs_mul, abs_mul]
    refine mul_lt_mul_of_pos_right ?_ (abs_pos.mpr hstep.ne')
    exact_mod_cast hfarther

/-- A number of fewer digits than places is less than a tenth. -/
theorem lt_tenth_of_digit_count {c k : ℕ} (h : digitCount c < k) :
    (c : ℚ) * 10 ^ (-(k : ℤ)) < 1 / 10 := by
  have hdigits : 0 < digitCount c := Nat.length_toDigits_pos
  obtain ⟨places, rfl⟩ := Nat.exists_eq_add_one_of_ne_zero (Nat.ne_zero_of_lt h)
  have hlt : (c : ℚ) < 10 ^ places := by
    exact_mod_cast (digit_count_le_iff (by omega)).mp (Nat.le_of_lt_succ h)
  have hpower : (10 : ℚ) ^ (-((places + 1 : ℕ) : ℤ)) = 1 / 10 / 10 ^ places := by
    rw [zpow_neg, zpow_natCast, pow_succ]
    field_simp
  rw [hpower, mul_div_assoc', div_lt_iff₀ (by positivity)]
  linarith

/-- More places than a decimal may have digits make any coefficient but zero too large. -/
theorem precision_le_raised {c places : ℕ} (hc : c ≠ 0) (h : precision ≤ places) :
    10 ^ precision ≤ c * 10 ^ places :=
  (Nat.pow_le_pow_right (by decide) h).trans (Nat.le_mul_of_pos_left _ (Nat.pos_of_ne_zero hc))

/-- A coefficient on a grid is the nearest integer, or both have too many digits. -/
theorem grid_coefficient_cases (d : Decimal) (digits : Int) :
    (gridCoefficient d digits : ℤ) = halfAway (d.coefficient * 10 ^ (d.exponent + digits)) ∨
      10 ^ precision ≤ gridCoefficient d digits ∧
        10 ^ precision ≤ (halfAway (d.coefficient * 10 ^ (d.exponent + digits))).natAbs := by
  unfold gridCoefficient
  dsimp only
  generalize d.exponent + digits = shift
  generalize d.coefficient = c
  split_ifs with hzero hshift hsmall
  · subst hzero
    have hvalue : ((0 : ℕ) : ℚ) * 10 ^ shift = (0 : ℤ) := by simp
    rw [hvalue, half_away_int]
    exact .inl rfl
  · obtain ⟨k, rfl⟩ := Int.eq_ofNat_of_zero_le hshift
    have hexact : halfAway (c * 10 ^ (k : ℤ)) = (c * 10 ^ k : ℕ) := by
      rw [zpow_natCast]
      exact_mod_cast half_away_int (c * 10 ^ k : ℕ)
    rw [hexact, Int.toNat_natCast]
    obtain hle | hgt := Nat.le_total k (precision + 1)
    · rw [Nat.min_eq_left hle]
      exact .inl rfl
    · rw [Nat.min_eq_right hgt]
      exact .inr ⟨precision_le_raised hzero (Nat.le_succ _),
        precision_le_raised hzero (Nat.le_of_succ_le hgt)⟩
  all_goals obtain ⟨k, rfl⟩ : ∃ k : ℕ, shift = -k := ⟨(-shift).toNat, by omega⟩
  all_goals rw [neg_neg, Int.toNat_natCast] at *
  · have htenth := lt_tenth_of_digit_count hsmall
    rw [half_away_of_lt_half (by positivity) (by linarith)]
    exact .inl rfl
  · have hquotient : (c : ℚ) * 10 ^ (-(k : ℤ)) = c / (10 ^ k : ℕ) := by
      rw [zpow_neg, zpow_natCast, div_eq_mul_inv]
      push_cast
      rfl
    rw [hquotient, half_away_div c (by positivity)]
    exact .inl rfl

/-- A decimal is rounded by its value, and keeps its sign. -/
theorem quantize_eq (d : Decimal) (digits : Int) : quantize? d digits =
    if (steps digits d.value).natAbs < 10 ^ precision then
      some ⟨d.negative, (steps digits d.value).natAbs, -digits⟩
    else none := by
  have hmagnitude : (steps digits d.value).natAbs =
      (halfAway (d.coefficient * 10 ^ (d.exponent + digits))).natAbs := by
    rw [steps, zpow_add₀ (by norm_num), ← mul_assoc, value_eq]
    split
    · rw [neg_mul, half_away_neg, Int.natAbs_neg]
    · rfl
  rw [hmagnitude, quantize?]
  simp only [digit_count_le_iff (by decide : 0 < precision)]
  obtain hexact | ⟨hgrid, hlarge⟩ := grid_coefficient_cases d digits
  · rw [← hexact, Int.natAbs_natCast]
  · rw [if_neg hgrid.not_gt, if_neg hlarge.not_gt]

/-- A decimal whose value is not large on a grid is rounded to it. -/
theorem quantize_of_small {d : Decimal} {digits : Int}
    (h : |d.value| * 10 ^ digits + 1 / 2 < 10 ^ precision) :
    ∃ rounded, quantize? d digits = some rounded := by
  have hsteps : (steps digits d.value).natAbs < 10 ^ precision := by
    have hcast : ((steps digits d.value).natAbs : ℚ) < 10 ^ precision := by
      rw [Nat.cast_natAbs, Int.cast_abs]
      exact (abs_steps_le digits d.value).trans_lt h
    exact_mod_cast hcast
  rw [quantize_eq, if_pos hsteps]
  exact ⟨_, rfl⟩

/-- Decimals of the same sign and value are rounded alike. -/
theorem quantize_congr {d other : Decimal} (hsign : d.negative = other.negative)
    (hvalue : d.value = other.value) (digits : Int) :
    quantize? d digits = quantize? other digits := by
  rw [quantize_eq, quantize_eq, hsign, hvalue]

section Rounded

variable {d rounded : Decimal} {digits : Int} (h : quantize? d digits = some rounded)
include h

/-- A rounded decimal has at most 28 digits. -/
theorem steps_lt_of_quantize : (steps digits d.value).natAbs < 10 ^ precision := by
  rw [quantize_eq] at h
  split at h
  · assumption
  · cases h

/-- What a rounded decimal is. -/
theorem eq_of_quantize : rounded = ⟨d.negative, (steps digits d.value).natAbs, -digits⟩ := by
  have hsome := h
  rw [quantize_eq, if_pos (steps_lt_of_quantize h)] at hsome
  exact (Option.some.inj hsome).symm

/-- The value of a rounded decimal is the nearest multiple. -/
theorem value_of_quantize : rounded.value = steps digits d.value * 10 ^ (-digits) := by
  have hsigned : signed d.negative (steps digits d.value).natAbs = steps digits d.value := by
    have hmagnitude : (0 : ℚ) ≤ d.coefficient * 10 ^ d.exponent * 10 ^ digits := by positivity
    have hnonneg := half_away_nonneg hmagnitude
    rw [steps, value_eq, signed]
    split
    · rw [neg_mul, half_away_neg]
      omega
    · omega
  rw [eq_of_quantize h, value]
  simp only [hsigned]

/-- A rounded decimal is rounded to itself. -/
theorem quantize_twice : quantize? rounded digits = some rounded := by
  have hsteps : steps digits rounded.value = steps digits d.value := by
    rw [value_of_quantize h, steps_of_multiple]
  rw [quantize_eq, hsteps, if_pos (steps_lt_of_quantize h), eq_of_quantize h]

/-- A multiple stays as it is. -/
theorem quantize_multiple {n : ℤ} (hmultiple : d.value = n * 10 ^ (-digits)) :
    rounded.value = d.value := by
  rw [value_of_quantize h, hmultiple, steps_of_multiple]

/-- The opposite of a decimal is rounded to the opposite. -/
theorem quantize_opposite {other : Decimal} (hother : other.value = -d.value) :
    ∃ opposite, quantize? other digits = some opposite ∧ opposite.value = -rounded.value := by
  have hsteps : steps digits other.value = -steps digits d.value := by
    rw [hother, steps, neg_mul, half_away_neg, steps]
  have hsome : quantize? other digits =
      some ⟨other.negative, (steps digits other.value).natAbs, -digits⟩ := by
    rw [quantize_eq, if_pos]
    rw [hsteps, Int.natAbs_neg]
    exact steps_lt_of_quantize h
  refine ⟨_, hsome, ?_⟩
  rw [value_of_quantize hsome, value_of_quantize h, hsteps, Int.cast_neg, neg_mul]

/-- Rounding keeps the order. -/
theorem quantize_mono {other rounded' : Decimal} (h' : quantize? other digits = some rounded')
    (hle : d.value ≤ other.value) : rounded.value ≤ rounded'.value := by
  have hsteps : steps digits d.value ≤ steps digits other.value :=
    half_away_mono (mul_le_mul_of_nonneg_right hle (by positivity))
  rw [value_of_quantize h, value_of_quantize h']
  exact mul_le_mul_of_nonneg_right (by exact_mod_cast hsteps) (by positivity)

end Rounded

end Decimal

end SparkLog
