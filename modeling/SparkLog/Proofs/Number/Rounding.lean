import Mathlib
import SparkLog.Proofs.Decimal.Shortest
import SparkLog.Proofs.Listing.Columns

/-!
# Rounding errors

Sums and differences of numbers of moderate magnitude are the numbers nearest to the exact ones
(`add_units`, `sub_units`), which are off by the 53rd binary digit at most (`nearest_units_error`).
Quotients and products of such numbers are numbers (`of_unit_ratio_finite`). A sum or product of
integers is exact as long as it is below two to the power 53 in magnitude (`add_exact`,
`mul_exact`), and comparing with an integer always is (`compare_int_of_units`).
-/

namespace SparkLog

namespace Binary64

/-! ## Nearest magnitudes -/

/-- A moderate quotient has a nearest magnitude, which is at most twice as large. -/
theorem nearest_rank_lt {num den exponent : Nat} (hexponent : exponent ≤ 200)
    (h : num ≤ unitsOfOne * 2 ^ exponent * den) : nearestRank num den < rankLimit ∧
      unitsOfRank (nearestRank num den) ≤ unitsOfOne * 2 ^ (exponent + 1) := by
  obtain ⟨k, hlow, hhigh, hone⟩ := units_of_one_eq
  generalize unitsOfOne = one at hone h ⊢
  subst hone
  have hlog : Nat.log2 (num / den) ≤ k + exponent := by
    by_cases hzero : num / den = 0
    · simp [hzero]
    · refine Nat.le_of_lt_succ ((Nat.log2_lt hzero).mpr ?_)
      calc num / den
        _ ≤ 2 ^ k * 2 ^ exponent := Nat.div_le_of_le_mul (by rwa [Nat.mul_comm] at h)
        _ = 2 ^ (k + exponent) := (Nat.pow_add _ _ _).symm
        _ < 2 ^ (k + exponent + 1) := Nat.pow_lt_pow_right (by decide) (Nat.lt_succ_self _)
  obtain ⟨rest, hrest⟩ := Nat.exists_eq_add_of_le hlow
  have hrank : nearestRank num den ≤ (rest + exponent + 1) * binade + binade := by
    refine nearest_rank_le.trans ?_
    rw [← Nat.succ_mul]
    exact Nat.mul_le_mul_right _ (by omega)
  constructor
  · refine Nat.lt_of_le_of_lt hrank ?_
    rw [← Nat.succ_mul]
    exact Nat.mul_lt_mul_of_pos_right (by omega) (by decide)
  · calc unitsOfRank (nearestRank num den)
      _ ≤ unitsOfRank ((rest + exponent + 1) * binade + binade) :=
        units_of_rank_strict_mono.monotone hrank
      _ = binade * 2 ^ (rest + exponent + 1) :=
        units_of_rank_next _ (Nat.le_refl _) (by decide)
      _ = 2 ^ 52 * 2 ^ (rest + exponent + 1) := by rw [show binade = 2 ^ 52 by decide]
      _ = 2 ^ k * 2 ^ (exponent + 1) := by
        rw [← Nat.pow_add, ← Nat.pow_add, hrest]
        exact congrArg _ (by omega)

/-- Rounding to an integer is off by a half at most. -/
theorem round_half_even_error (num : Nat) {den : Nat} (hden : 0 < den) :
    2 * (roundHalfEven num den * den) ≤ 2 * num + den ∧
      2 * num ≤ 2 * (roundHalfEven num den * den) + den := by
  have hwhole := Nat.div_add_mod' num den
  have hrest := Nat.mod_lt num hden
  unfold roundHalfEven
  dsimp only
  generalize num / den = quotient at hwhole ⊢
  split_ifs with hbelow habove
  · omega
  · rw [Nat.add_mul]
    omega
  · obtain hparity | hparity := Nat.mod_two_eq_zero_or_one quotient <;>
      rw [hparity, Nat.add_mul] <;> omega

/-- The magnitude at a place in a binade, or among the smallest ones. -/
theorem units_of_nearest_rank (num : Nat) : unitsOfRank (nearestRank num 1) =
    roundHalfEven num (1 * Nat.pow 2 (Nat.log2 num - 52)) * 2 ^ (Nat.log2 num - 52) := by
  have hhigh := @nearest_rank_le num 1
  have hlow := @le_nearest_rank num 1
  unfold nearestRank at hhigh hlow ⊢
  dsimp only at hhigh hlow ⊢
  rw [Nat.div_one] at hhigh hlow ⊢
  generalize roundHalfEven num (1 * Nat.pow 2 (Nat.log2 num - 52)) = n at hhigh hlow ⊢
  generalize Nat.log2 num - 52 = shift at hhigh hlow ⊢
  have hupper : n ≤ 2 * binade := by
    rw [Nat.add_mul] at hhigh
    omega
  by_cases hplace : binade ≤ n
  · exact units_of_rank_next shift hplace hupper
  · obtain rfl : shift = 0 := by
      by_contra hshift
      have hlow := hlow hshift
      rw [Nat.add_mul] at hlow
      omega
    rw [Nat.zero_mul, Nat.zero_add, Nat.pow_zero, Nat.mul_one]
    exact units_of_rank_small (Nat.le_of_not_le hplace)

/-- A magnitude is nearest to itself. -/
theorem nearest_rank_self (rank : Nat) : unitsOfRank (nearestRank (unitsOfRank rank) 1) =
    unitsOfRank rank := by
  rw [units_of_nearest_rank]
  obtain ⟨shift, n, hunits, hexact⟩ : ∃ shift n, unitsOfRank rank = n * 2 ^ shift ∧
      Nat.log2 (unitsOfRank rank) - 52 = shift := by
    have hbinade : binade = 2 ^ 52 := by decide
    by_cases hsmall : rank < binade
    · rw [units_of_rank_small hsmall.le]
      refine ⟨0, rank, (Nat.mul_one rank).symm, ?_⟩
      by_cases hzero : rank = 0
      · rw [hzero]
        rfl
      · have hlog := (Nat.log2_lt hzero).mpr (hbinade ▸ hsmall)
        omega
    · obtain ⟨shift, n, hlow, hhigh, rfl⟩ := exists_significand (Nat.le_of_not_lt hsmall)
      rw [units_of_rank_next shift hlow hhigh.le]
      refine ⟨shift, n, rfl, ?_⟩
      have hne : n ≠ 0 := Nat.ne_of_gt (Nat.lt_of_lt_of_le (by decide) hlow)
      have hlog : n.log2 = 52 := by
        rw [Nat.log2_eq_iff hne]
        omega
      rw [Nat.mul_comm, log2_two_pow_mul hne, hlog, Nat.add_sub_cancel]
  rw [hexact, hunits, Nat.one_mul, Nat.pow_eq, round_half_even_mul _ (Nat.two_pow_pos shift)]

/-- The magnitude nearest to some units is off by half a step of their binade at most. -/
theorem nearest_rank_step (num : Nat) :
    2 * unitsOfRank (nearestRank num 1) ≤ 2 * num + 2 ^ (Nat.log2 num - 52) ∧
      2 * num ≤ 2 * unitsOfRank (nearestRank num 1) + 2 ^ (Nat.log2 num - 52) := by
  have hstep : 0 < 1 * Nat.pow 2 (Nat.log2 num - 52) := Nat.mul_pos Nat.one_pos (Nat.two_pow_pos _)
  have herror := round_half_even_error num hstep
  rw [units_of_nearest_rank]
  rwa [Nat.one_mul, Nat.pow_eq] at herror ⊢

/-- The magnitude nearest to some units is off by their 53rd binary digit at most. -/
theorem nearest_rank_error (num : Nat) :
    2 ^ 53 * unitsOfRank (nearestRank num 1) ≤ 2 ^ 53 * num + num ∧
      2 ^ 53 * num ≤ 2 ^ 53 * unitsOfRank (nearestRank num 1) + num := by
  have herror := nearest_rank_step num
  -- Up to 53 binary digits the magnitude is exact; beyond, it is off by half a step at most.
  by_cases hshift : Nat.log2 num - 52 = 0
  · rw [hshift, Nat.pow_zero] at herror
    omega
  · have hnum : num ≠ 0 := by
      rintro rfl
      exact hshift rfl
    have hdigit : 2 ^ 52 * 2 ^ (Nat.log2 num - 52) ≤ num := by
      rw [← Nat.pow_add, Nat.add_sub_cancel' (by omega)]
      exact Nat.log2_self_le hnum
    generalize 2 ^ (Nat.log2 num - 52) = step at herror hdigit
    omega

/-- The magnitude nearest to units below a power of two is off by the 54th binary digit of the power
at most. -/
theorem nearest_rank_error_of_lt {num exponent : Nat} (h : num < 2 ^ exponent) :
    2 ^ 54 * unitsOfRank (nearestRank num 1) ≤ 2 ^ 54 * num + 2 ^ exponent ∧
      2 ^ 54 * num ≤ 2 ^ 54 * unitsOfRank (nearestRank num 1) + 2 ^ exponent := by
  have herror := nearest_rank_step num
  by_cases hshift : Nat.log2 num - 52 = 0
  · rw [hshift, Nat.pow_zero] at herror
    omega
  · have hnum : num ≠ 0 := by
      rintro rfl
      exact hshift rfl
    have hstep : 2 ^ 53 * 2 ^ (Nat.log2 num - 52) ≤ 2 ^ exponent := by
      have hlog := (Nat.log2_lt hnum).mpr h
      rw [← Nat.pow_add]
      exact Nat.pow_le_pow_right Nat.two_pos (by omega)
    generalize 2 ^ (Nat.log2 num - 52) = step at herror hstep
    omega

/-! ## Nearest units -/

/-- The units of the number nearest to some units, less than none if these are. -/
def nearestUnits (units : Int) : Int :=
  if units < 0 then -(unitsOfRank (nearestRank units.natAbs 1) : Int)
  else (unitsOfRank (nearestRank units.natAbs 1) : Int)

/-- The magnitude of the nearest units is that nearest to the magnitude. -/
theorem nat_abs_nearest_units (units : Int) :
    (nearestUnits units).natAbs = unitsOfRank (nearestRank units.natAbs 1) := by
  unfold nearestUnits
  split
  · rw [Int.natAbs_neg, Int.natAbs_natCast]
  · rw [Int.natAbs_natCast]

/-- The nearest units are on the same side of zero. -/
theorem nearest_units_sign (units : Int) :
    (0 ≤ units → 0 ≤ nearestUnits units) ∧ (units ≤ 0 → nearestUnits units ≤ 0) := by
  have hzero : nearestUnits 0 = 0 := rfl
  refine ⟨fun h => ?_, fun h => ?_⟩
  · rw [nearestUnits, if_neg (Int.not_lt.mpr h)]
    exact Int.natCast_nonneg _
  · obtain hnegative | rfl := Int.lt_or_eq_of_le h
    · rw [nearestUnits, if_pos hnegative]
      exact Int.neg_nonpos_of_nonneg (Int.natCast_nonneg _)
    · exact hzero.le

/-- Units and the nearest ones are as far apart as their magnitudes. -/
theorem nearest_units_distance (units : Int) : (nearestUnits units - units).natAbs =
    ((nearestUnits units).natAbs - (units.natAbs : Int)).natAbs := by
  unfold nearestUnits
  split <;> omega

/-- The nearest units are off by the 53rd binary digit at most. -/
theorem nearest_units_error (units : Int) :
    2 ^ 53 * (nearestUnits units - units).natAbs ≤ units.natAbs := by
  have herror := nearest_rank_error units.natAbs
  rw [nearest_units_distance, nat_abs_nearest_units]
  omega

/-- The nearest units are the units and an error of their 53rd binary digit at most. -/
theorem exists_rounding_error (units : Int) :
    ∃ error, nearestUnits units = units + error ∧ 2 ^ 53 * error.natAbs ≤ units.natAbs :=
  ⟨nearestUnits units - units, by omega, nearest_units_error units⟩

/-- The nearest units are off by the 54th binary digit of a power of two that is larger. -/
theorem nearest_units_error_of_lt {units : Int} {exponent : Nat} (h : units.natAbs < 2 ^ exponent) :
    2 ^ 54 * (nearestUnits units - units).natAbs ≤ 2 ^ exponent := by
  have herror := nearest_rank_error_of_lt h
  rw [nearest_units_distance, nat_abs_nearest_units]
  generalize 2 ^ exponent = power at herror ⊢
  omega

/-- The nearest units of a magnitude that is bounded are bounded by those nearest to the bound. -/
theorem nearest_units_le {units : Int} {bound : Nat} (h : units.natAbs ≤ bound) :
    (nearestUnits units).natAbs ≤ unitsOfRank (nearestRank bound 1) :=
  (nat_abs_nearest_units units).trans_le (units_of_rank_strict_mono.monotone (nearest_rank_mono h))

/-- The nearest units of a magnitude past a bound are at least those nearest to the bound. -/
theorem le_nearest_units {units : Int} {bound : Nat} (h : bound ≤ units.natAbs) :
    unitsOfRank (nearestRank bound 1) ≤ (nearestUnits units).natAbs :=
  (units_of_rank_strict_mono.monotone (nearest_rank_mono h)).trans_eq
    (nat_abs_nearest_units units).symm

/-! ## Arithmetic -/

/-- A finite number is so many units, less than none if it is negative. -/
def IsUnits (x : Binary64) (units : Int) : Prop :=
  ∃ negative rank, x = .finite negative rank ∧ signedUnits negative rank = units

/-- A number that is so many units is a number. -/
theorem IsUnits.is_nan {x : Binary64} {units : Int} (h : x.IsUnits units) : x.isNan = false := by
  obtain ⟨negative, rank, rfl, -⟩ := h
  rfl

/-- The magnitude of units with a sign. -/
theorem nat_abs_signed_units (negative : Bool) (rank : Fin rankLimit) :
    (signedUnits negative rank).natAbs = unitsOfRank rank := by
  cases negative <;> simp [signedUnits]

/-- Either zero is no units. -/
theorem zero_units (negative : Bool) : (zero negative).IsUnits 0 := by
  refine ⟨negative, _, rfl, ?_⟩
  rw [← Int.natAbs_eq_zero, nat_abs_signed_units]
  rfl

/-- The number with the other sign is as many units on the other side of zero. -/
theorem IsUnits.neg {x : Binary64} {units : Int} (h : x.IsUnits units) :
    x.neg.IsUnits (-units) := by
  obtain ⟨negative, rank, rfl, rfl⟩ := h
  exact ⟨!negative, rank, rfl, by cases negative <;> simp [signedUnits]⟩

/-- A moderate quotient is a finite number, which is at most twice as large. -/
theorem of_unit_ratio_finite (negative : Bool) {num den exponent : Nat} (hexponent : exponent ≤ 200)
    (h : num ≤ unitsOfOne * 2 ^ exponent * den) :
    ∃ rank, ofUnitRatio negative num den = .finite negative rank ∧
      unitsOfRank rank = unitsOfRank (nearestRank num den) ∧
      unitsOfRank rank ≤ unitsOfOne * 2 ^ (exponent + 1) := by
  obtain ⟨hlimit, hunits⟩ := nearest_rank_lt hexponent h
  exact ⟨⟨_, hlimit⟩, dif_pos hlimit, rfl, hunits⟩

variable {x y : Binary64} {a b : Int}

/-- A moderate sum is the number nearest to the exact one. -/
theorem add_units (hx : x.IsUnits a) (hy : y.IsUnits b)
    (hbound : (a + b).natAbs ≤ unitsOfOne * 2 ^ 200) :
    (x.add y).IsUnits (nearestUnits (a + b)) := by
  obtain ⟨s, m, rfl, rfl⟩ := hx
  obtain ⟨t, n, rfl, rfl⟩ := hy
  unfold add
  dsimp only
  generalize signedUnits s m + signedUnits t n = sum at hbound ⊢
  split_ifs with hzero
  · rw [hzero]
    exact zero_units _
  · obtain ⟨rank, hnumber, hunits, -⟩ := of_unit_ratio_finite (decide (sum < 0)) (le_refl 200)
      (hbound.trans_eq (Nat.mul_one _).symm)
    refine ⟨_, rank, hnumber, ?_⟩
    unfold signedUnits nearestUnits
    simp only [hunits, decide_eq_true_eq]

/-- A moderate difference is the number nearest to the exact one. -/
theorem sub_units (hx : x.IsUnits a) (hy : y.IsUnits b)
    (hbound : (a - b).natAbs ≤ unitsOfOne * 2 ^ 200) :
    (x.sub y).IsUnits (nearestUnits (a - b)) := by
  rw [sub_eq_add_neg] at hbound ⊢
  exact add_units hx hy.neg hbound

/-! ## Integers -/

/-- A fraction of units is the magnitude nearest to it, unless that is infinite. -/
theorem of_unit_ratio_of_lt (negative : Bool) {num den : Nat}
    (h : nearestRank num den < rankLimit) :
    ofUnitRatio negative num den = .finite negative ⟨_, h⟩ :=
  dif_pos h

/-- As many ones as an integer are the integer with the sign of the number. -/
theorem units_of_magnitude {negative : Bool} {rank : Fin rankLimit} {n : Int}
    (hunits : unitsOfRank rank = unitsOfOne * n.natAbs)
    (hsign : n ≠ 0 → negative = decide (n < 0)) :
    (finite negative rank).IsUnits (unitsOfOne * n) := by
  refine ⟨_, _, rfl, ?_⟩
  unfold signedUnits
  rw [hunits, Int.natCast_mul]
  generalize unitsOfOne = one
  obtain hnegative | rfl | hpositive := Int.lt_trichotomy n 0
  · rw [hsign hnegative.ne, decide_eq_true hnegative, if_pos rfl,
      Int.ofNat_natAbs_of_nonpos hnegative.le, mul_neg, neg_neg]
  · simp
  · rw [hsign hpositive.ne', decide_eq_false hpositive.le.not_gt, if_neg Bool.false_ne_true,
      Int.natAbs_of_nonneg hpositive.le]

/-- An integer whose magnitude is nearest to itself is a number. -/
theorem of_ratio_units_of_nearest {n : Int}
    (h : nearestRank (unitsOfOne * n.natAbs) 1 < rankLimit ∧
      unitsOfRank (nearestRank (unitsOfOne * n.natAbs) 1) = unitsOfOne * n.natAbs) :
    (ofRatio n 1).IsUnits (unitsOfOne * n) := by
  have hone : ((1 : Nat) : Int).natAbs = 1 := rfl
  rw [ofRatio, ofQuotient, hone, of_unit_ratio_of_lt _ h.1]
  exact units_of_magnitude h.2 fun _ => by simp

/-- An integer below two to the power 53 in magnitude is a number. -/
theorem of_ratio_units {n : Int} (hn : n.natAbs < 2 ^ 53) :
    (ofRatio n 1).IsUnits (unitsOfOne * n) := by
  have hexact := nearest_rank_exact hn Nat.one_pos
  rw [Nat.mul_one] at hexact
  exact of_ratio_units_of_nearest hexact

/-- The magnitude of as many ones as an integer is as many ones as that of the integer. -/
theorem magnitude_of_units {negative : Bool} {rank : Fin rankLimit} {n : Int}
    (h : signedUnits negative rank = unitsOfOne * n) :
    unitsOfRank rank = unitsOfOne * n.natAbs := by
  rw [← nat_abs_signed_units negative, h, Int.natAbs_mul, Int.natAbs_natCast]

/-- The magnitude of an integer below two to the power 53 is as many ones. -/
theorem of_ratio_magnitude {n : Int} (hn : n.natAbs < 2 ^ 53) :
    ∃ negative rank, ofRatio n 1 = .finite negative rank ∧
      unitsOfRank rank = unitsOfOne * n.natAbs := by
  obtain ⟨negative, rank, hnumber, hunits⟩ := of_ratio_units hn
  exact ⟨negative, rank, hnumber, magnitude_of_units hunits⟩

/-- The number nearest to an integer is infinite, or at least half as large as the integer. -/
theorem of_ratio_cases (n : Int) : (∃ negative, ofRatio n 1 = .infinite negative) ∨
    ∃ negative rank, ofRatio n 1 = .finite negative rank ∧
      unitsOfOne * n.natAbs ≤ 2 * unitsOfRank rank := by
  have hone : ((1 : Nat) : Int).natAbs = 1 := rfl
  rw [ofRatio, ofQuotient, hone]
  obtain ⟨-, hinfinite⟩ | ⟨hlimit, -⟩ := of_unit_ratio_cases
    (decide (n < 0) != decide (((1 : Nat) : Int) < 0)) (unitsOfOne * n.natAbs) 1
  · exact .inl ⟨_, hinfinite⟩
  · refine .inr ⟨_, _, of_unit_ratio_of_lt _ hlimit, ?_⟩
    have herror (magnitude : Nat) : magnitude ≤ 2 * unitsOfRank (nearestRank magnitude 1) := by
      have herror := (nearest_rank_error magnitude).2
      omega
    exact herror _

/-- A quotient by an integer is a zero, or that of the magnitudes but for its sign. -/
theorem div_by_int (negative : Bool) (rank : Fin rankLimit) {n : Int} (hne : n ≠ 0) :
    (∃ sign, (finite negative rank).div (ofRatio n 1) = zero sign) ∨
      ∃ sign den, (finite negative rank).div (ofRatio n 1) =
        ofUnitRatio sign (unitsOfOne * unitsOfRank rank) den ∧ unitsOfOne * n.natAbs ≤ 2 * den := by
  obtain ⟨sign, hinfinite⟩ | ⟨sign, divisor, hnumber, hunits⟩ := of_ratio_cases n
  · exact .inl ⟨negative != sign, by rw [hinfinite]; rfl⟩
  · have hdivisor : divisor.val ≠ 0 := by
      intro hzero
      have hpos := Nat.mul_pos units_of_one_pos (Int.natAbs_pos.mpr hne)
      rw [hzero] at hunits
      exact Nat.not_le_of_lt hpos hunits
    refine .inr ⟨negative != sign, unitsOfRank divisor, ?_, hunits⟩
    rw [hnumber]
    exact if_neg hdivisor

/-- A number that equals an integer is as many ones. -/
theorem units_of_to_int {x : Binary64} {n : Int} (h : x.toInt? = some n) :
    x.IsUnits (unitsOfOne * n) := by
  cases x with
  | nan | infinite => cases h
  | finite negative rank =>
      simp only [toInt?] at h
      split at h
      · next hwhole =>
          obtain rfl := Option.some.inj h
          have hdvd : (unitsOfOne : Int) ∣ signedUnits negative rank := by
            rw [← Int.dvd_natAbs, nat_abs_signed_units]
            exact Int.natCast_dvd_natCast.mpr (Nat.dvd_of_mod_eq_zero hwhole)
          exact ⟨negative, rank, rfl, (Int.mul_tdiv_cancel' hdvd).symm⟩
      · cases h

/-- The sign of as many ones as an integer is that of the integer, unless there are none. -/
theorem sign_of_units {negative : Bool} {rank : Fin rankLimit} {n : Int}
    (h : signedUnits negative rank = unitsOfOne * n) (hn : n ≠ 0) : negative = decide (n < 0) := by
  have hone := units_of_one_pos
  unfold signedUnits at h
  generalize unitsOfRank rank = units at h
  generalize unitsOfOne = one at h hone
  obtain hnegative | hpositive := lt_or_gt_of_ne hn
  · have hbelow : (one : Int) * n < 0 := Int.mul_neg_of_pos_of_neg (by omega) hnegative
    cases negative with
    | true => exact (decide_eq_true hnegative).symm
    | false =>
        rw [if_neg Bool.false_ne_true] at h
        omega
  · have habove : 0 < (one : Int) * n := Int.mul_pos (by omega) hpositive
    cases negative with
    | false => exact (decide_eq_false hpositive.le.not_gt).symm
    | true =>
        rw [if_pos rfl] at h
        omega

/-- A number that is as many ones as an integer equals the integer. -/
theorem IsUnits.to_int {x : Binary64} {n : Int} (h : x.IsUnits (unitsOfOne * n)) :
    x.toInt? = some n := by
  obtain ⟨negative, rank, rfl, hunits⟩ := h
  rw [to_int_of_units (magnitude_of_units hunits), Decimal.signed]
  by_cases hzero : n = 0
  · subst hzero
    cases negative <;> rfl
  · rw [sign_of_units hunits hzero]
    simp only [decide_eq_true_eq, Option.some.injEq]
    split <;> omega

/-- A number that is as many ones as an integer is the number nearest to the integer, but for the
sign of a zero. -/
theorem IsUnits.of_ratio {x : Binary64} {n : Int} (h : x.IsUnits (unitsOfOne * n)) :
    (ofRatio n 1).IsUnits (unitsOfOne * n) := by
  obtain ⟨negative, rank, -, hunits⟩ := h
  have hself := nearest_rank_self rank
  have hlimit : nearestRank (unitsOfRank rank) 1 < rankLimit := by
    rw [units_of_rank_strict_mono.injective hself]
    exact rank.isLt
  rw [magnitude_of_units hunits] at hself hlimit
  exact of_ratio_units_of_nearest ⟨hlimit, hself⟩

/-- Either zero is the integer zero. -/
theorem to_int_zero (negative : Bool) : (zero negative).toInt? = some 0 := by
  have hzero : (zero negative).toInt? = some (Decimal.signed negative 0) :=
    to_int_of_units (Nat.mul_zero unitsOfOne).symm
  rw [hzero]
  cases negative <;> rfl

/-- Whether a sum is an integer, and which one, depends on the units of its terms only. -/
theorem IsUnits.add_to_int {x' y' : Binary64} (hx : x.IsUnits a) (hx' : x'.IsUnits a)
    (hy : y.IsUnits b) (hy' : y'.IsUnits b) : (x.add y).toInt? = (x'.add y').toInt? := by
  obtain ⟨s, m, rfl, rfl⟩ := hx
  obtain ⟨s', m', rfl, hm⟩ := hx'
  obtain ⟨t, n, rfl, rfl⟩ := hy
  obtain ⟨t', n', rfl, hn⟩ := hy'
  unfold add
  dsimp only
  rw [hm, hn]
  split
  · rw [to_int_zero, to_int_zero]
  · rfl

/-- A sum of integers below two to the power 53 in magnitude is exact. -/
theorem add_exact {x y : Binary64} {m n : Int} (hx : x.IsUnits (unitsOfOne * m))
    (hy : y.IsUnits (unitsOfOne * n)) (h : (m + n).natAbs < 2 ^ 53) :
    (x.add y).IsUnits (unitsOfOne * (m + n)) := by
  obtain ⟨s, a, rfl, ha⟩ := hx
  obtain ⟨t, b, rfl, hb⟩ := hy
  unfold add
  dsimp only
  rw [ha, hb, ← Int.mul_add]
  split
  · rename_i hzero
    rw [hzero]
    exact zero_units _
  · rename_i hne
    obtain ⟨hlimit, hunits⟩ := nearest_rank_exact h Nat.one_pos
    have hmagnitude : ((unitsOfOne : Int) * (m + n)).natAbs = unitsOfOne * (m + n).natAbs := by
      rw [Int.natAbs_mul, Int.natAbs_natCast]
    rw [Nat.mul_one] at hlimit hunits
    rw [hmagnitude, of_unit_ratio_of_lt _ hlimit]
    refine units_of_magnitude hunits fun _ => ?_
    have hone : (0 : Int) < unitsOfOne := by exact_mod_cast units_of_one_pos
    generalize unitsOfOne = one at hone
    rw [decide_eq_decide, mul_neg_iff]
    omega

/-- A product of integers below two to the power 53 in magnitude is exact. -/
theorem mul_exact {x y : Binary64} {m n : Int} (hx : x.IsUnits (unitsOfOne * m))
    (hy : y.IsUnits (unitsOfOne * n)) (h : (m * n).natAbs < 2 ^ 53) :
    (x.mul y).IsUnits (unitsOfOne * (m * n)) := by
  obtain ⟨s, a, rfl, ha⟩ := hx
  obtain ⟨t, b, rfl, hb⟩ := hy
  have hproduct : unitsOfRank a * unitsOfRank b = unitsOfOne * (m * n).natAbs * unitsOfOne := by
    rw [magnitude_of_units ha, magnitude_of_units hb, Int.natAbs_mul]
    generalize unitsOfOne = one
    ring
  obtain ⟨hlimit, hunits⟩ := nearest_rank_exact h units_of_one_pos
  unfold mul
  dsimp only
  rw [hproduct, of_unit_ratio_of_lt _ hlimit]
  refine units_of_magnitude hunits fun hne => ?_
  obtain ⟨hm, hn⟩ := mul_ne_zero_iff.mp hne
  rw [sign_of_units ha hm, sign_of_units hb hn, Bool.eq_iff_iff, bne_iff_ne, ne_eq,
    decide_eq_decide, decide_eq_true_eq, mul_neg_iff]
  omega

/-- A number that is as many ones as an integer is compared like the integer. -/
theorem compare_int_of_units {x : Binary64} {m : Int} (hx : x.IsUnits (unitsOfOne * m)) (n : Int) :
    x.compareInt? n = some (compare m n) := by
  obtain ⟨negative, rank, rfl, hunits⟩ := hx
  have hone := units_of_one_pos
  unfold compareInt?
  dsimp only
  rw [hunits]
  generalize unitsOfOne = one at hone
  have hpos : (0 : Int) < one := by omega
  refine congrArg some ?_
  simp only [compare, compareOfLessAndEq, Int.mul_lt_mul_left hpos,
    Int.mul_eq_mul_left_iff hpos.ne']

end Binary64

/-- An integer below two to the power 53 in magnitude is converted. -/
theorem Payload.to_binary64_int {n : Int} (hn : n.natAbs < 2 ^ 53) :
    Number.toBinary64 (.int n) = .ok (Binary64.ofRatio n 1) := by
  obtain ⟨negative, rank, hnumber, -⟩ := Binary64.of_ratio_units hn
  rw [Number.toBinary64, Binary64.ofInt?, hnumber]
  rfl

end SparkLog
