import Mathlib.Algebra.Order.Ring.Int
import SparkLog.Decimal.HalfUp

/-!
# Integers that are rounded exactly

Every integer below two to the power 53 in magnitude is a floating-point number
(`Binary64.nearest_rank_exact`), and so it is rounded to itself in listings
(`Decimal.round_int_exact`).
-/

namespace SparkLog

namespace Binary64

/-- Rounding a multiple to an integer gives the factor. -/
theorem round_half_even_mul (n : Nat) {den : Nat} (hden : 0 < den) :
    roundHalfEven (n * den) den = n := by
  simp [roundHalfEven, hden]

/-- The logarithm of a multiple by a power of two. -/
theorem log2_two_pow_mul {n : Nat} (hn : n ≠ 0) (k : Nat) : Nat.log2 (2 ^ k * n) = k + n.log2 := by
  rw [Nat.log2_eq_iff (Nat.mul_ne_zero (Nat.ne_of_gt (Nat.two_pow_pos k)) hn), Nat.add_assoc,
    Nat.pow_add, Nat.pow_add]
  exact ⟨Nat.mul_le_mul_left _ (Nat.log2_self_le hn),
    Nat.mul_lt_mul_of_pos_left Nat.lt_log2_self (Nat.two_pow_pos k)⟩

/-- The magnitude at a place in a binade. -/
theorem units_of_rank_binade (shift : Nat) {n : Nat} (hlow : binade ≤ n) (hhigh : n < 2 * binade) :
    unitsOfRank (shift * binade + n) = n * 2 ^ shift := by
  obtain ⟨place, rfl⟩ := Nat.exists_eq_add_of_le hlow
  have hplace : place < binade := by omega
  have hrank : shift * binade + (binade + place) = place + (shift + 1) * binade := by
    rw [Nat.add_mul]
    omega
  have hlarge : ¬ place + (shift + 1) * binade < binade := by
    rw [Nat.add_mul]
    omega
  have hbinade : 0 < binade := by decide
  rw [hrank, unitsOfRank, if_neg hlarge, Nat.add_mul_mod_self_right, Nat.mod_eq_of_lt hplace,
    Nat.add_mul_div_right _ _ hbinade, Nat.div_eq_of_lt hplace, Nat.zero_add, Nat.add_sub_cancel]
  rfl

/-- The number one is a power of two, far from both ends of the magnitudes. -/
theorem units_of_one_eq : ∃ k, 52 ≤ k ∧ k ≤ 1100 ∧ unitsOfOne = 2 ^ k :=
  ⟨unitsOfOne.log2, by decide +kernel, by decide +kernel, by decide +kernel⟩

/-- The number one is more than nothing. -/
theorem units_of_one_pos : 0 < unitsOfOne := by
  obtain ⟨k, -, -, hone⟩ := units_of_one_eq
  exact hone ▸ Nat.two_pow_pos k

/-- An integer below two to the power 53 is a significand with as many binary digits as 53 lacks. -/
theorem significand_of_lt {n : Nat} (hne : n ≠ 0) (hn : n < 2 ^ 53) :
    ∃ rest, 52 = n.log2 + rest ∧ binade ≤ n * 2 ^ rest ∧ n * 2 ^ rest < 2 * binade := by
  obtain ⟨rest, hrest⟩ := Nat.exists_eq_add_of_le (Nat.le_of_lt_succ ((Nat.log2_lt hne).mpr hn))
  refine ⟨rest, hrest, ?_, ?_⟩
  · have hpow : binade = 2 ^ n.log2 * 2 ^ rest := by
      rw [← Nat.pow_add, ← hrest]
      rfl
    rw [hpow]
    exact Nat.mul_le_mul_right _ (Nat.log2_self_le hne)
  · have hpow : 2 * binade = 2 ^ (n.log2 + 1) * 2 ^ rest := by
      rw [← Nat.pow_add, Nat.add_right_comm, ← hrest]
      rfl
    rw [hpow]
    exact Nat.mul_lt_mul_of_pos_right Nat.lt_log2_self (Nat.two_pow_pos _)

/-- The units of an integer below two to the power 53 are a magnitude: they are nearest to
themselves, and within the finite ones. -/
theorem nearest_rank_exact {n den : Nat} (hn : n < 2 ^ 53) (hden : 0 < den) :
    nearestRank (unitsOfOne * n * den) den < rankLimit ∧
      unitsOfRank (nearestRank (unitsOfOne * n * den) den) = unitsOfOne * n := by
  obtain rfl | hpos := Nat.eq_zero_or_pos n
  · have hzero : nearestRank 0 den = 0 := by
      simp [nearestRank, roundHalfEven, hden]
    rw [Nat.mul_zero, Nat.zero_mul, hzero]
    exact ⟨by decide, rfl⟩
  have hne : n ≠ 0 := Nat.ne_of_gt hpos
  obtain ⟨k, hk, hlimit, hunits⟩ := units_of_one_eq
  obtain ⟨rest, hrest, hlow, hhigh⟩ := significand_of_lt hne hn
  have hshift : Nat.log2 (2 ^ k * n) - 52 = k - rest := by
    rw [log2_two_pow_mul hne]
    omega
  have hfactor : 2 ^ k * n = n * 2 ^ rest * 2 ^ (k - rest) := by
    rw [Nat.mul_assoc, ← Nat.pow_add, Nat.add_sub_cancel' (by omega), Nat.mul_comm]
  have hrank : nearestRank (unitsOfOne * n * den) den =
      (k - rest) * binade + n * 2 ^ rest := by
    unfold nearestRank
    dsimp only
    rw [Nat.mul_div_cancel _ hden, hunits, hshift, hfactor, Nat.mul_assoc _ _ den,
      Nat.mul_comm _ den, Nat.pow_eq,
      round_half_even_mul _ (Nat.mul_pos hden (Nat.two_pow_pos _))]
  rw [hrank, units_of_rank_binade _ hlow hhigh, hunits, hfactor]
  refine ⟨?_, rfl⟩
  calc
    (k - rest) * binade + n * 2 ^ rest < (k - rest) * binade + 2 * binade :=
      Nat.add_lt_add_left hhigh _
    _ = (k - rest + 2) * binade := (Nat.add_mul _ _ _).symm
    _ ≤ rankLimit := Nat.mul_le_mul_right _ (by omega)

/-- A whole number of ones is an integer. -/
theorem to_int_of_units {negative : Bool} {rank : Fin rankLimit} {n : Nat}
    (h : unitsOfRank rank = unitsOfOne * n) :
    (finite negative rank).toInt? = some (Decimal.signed negative n) := by
  have hone : (unitsOfOne : Int) ≠ 0 := by
    exact_mod_cast Nat.ne_of_gt units_of_one_pos
  rw [toInt?, signedUnits, h, Nat.mul_mod_right, if_pos rfl]
  cases negative with
  | false =>
      show some (((unitsOfOne * n : Nat) : Int).tdiv unitsOfOne) = some (n : Int)
      rw [Int.natCast_mul, Int.mul_tdiv_cancel_left _ hone]
  | true =>
      show some ((-((unitsOfOne * n : Nat) : Int)).tdiv unitsOfOne) = some (-(n : Int))
      rw [Int.natCast_mul, Int.neg_tdiv, Int.mul_tdiv_cancel_left _ hone]

end Binary64

namespace Decimal

/-- A number with few enough digits is below a power of ten. -/
theorem digit_count_le_iff {n k : Nat} (hk : 0 < k) : digitCount n ≤ k ↔ n < 10 ^ k := by
  rw [digitCount, digits, Nat.length_toDigits_le_iff (by decide) hk]

/-- Tenths that make an integer below two to the power 53 are nearest to that integer. -/
theorem of_tenths_exact {n : Nat} (negative : Bool) (hn : n < 2 ^ 53) :
    (Binary64.ofDecimal negative (10 * n) (-1)).toInt? = some (signed negative n) := by
  by_cases hzero : 10 * n = 0
  · obtain rfl : n = 0 := by omega
    exact Binary64.to_int_of_units (Nat.mul_zero _).symm
  · obtain ⟨hlimit, hexact⟩ := Binary64.nearest_rank_exact hn (by decide : 0 < 10)
    have hpow : Nat.pow 10 (-(-1 : Int)).toNat = 10 := rfl
    have hsmall : ¬ (-1 : Int) + (Nat.log2 (10 * n) : Int) < -400 := by omega
    have hunits : Binary64.unitsOfOne * (10 * n) = Binary64.unitsOfOne * n * 10 := by
      rw [Nat.mul_comm 10 n, Nat.mul_assoc]
    have hnumber : Binary64.ofDecimal negative (10 * n) (-1) = .finite negative ⟨_, hlimit⟩ := by
      rw [Binary64.ofDecimal, if_neg hzero, if_neg (by decide), if_neg (by decide), if_neg hsmall,
        hpow, hunits, Binary64.ofUnitRatio]
      exact dif_pos hlimit
    rw [hnumber]
    exact Binary64.to_int_of_units hexact

/-- An integer below two to the power 53 in magnitude is rounded to itself. -/
theorem round_int_exact {n : Int} (hn : n.natAbs < 2 ^ 53) :
    ∃ x, roundInt? n 1 = some x ∧ x.toInt? = some n := by
  have hgrid : gridCoefficient (ofInt n) 1 = 10 * n.natAbs := by
    unfold gridCoefficient ofInt
    by_cases hzero : n.natAbs = 0
    · simp [hzero]
    · simp only [hzero, if_false]
      rw [if_pos (by decide)]
      exact Nat.mul_comm _ _
  have hdigits : digitCount (10 * n.natAbs) ≤ precision := by
    rw [digit_count_le_iff (by decide), precision]
    omega
  refine ⟨toBinary64 ⟨n < 0, 10 * n.natAbs, -1⟩, ?_, ?_⟩
  · rw [roundInt?, quantize?, hgrid, if_pos hdigits]
    rfl
  · rw [toBinary64, of_tenths_exact _ hn, signed]
    simp only [decide_eq_true_eq, Option.some.injEq]
    split <;> omega

end Decimal

end SparkLog
