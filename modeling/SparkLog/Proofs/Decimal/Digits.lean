import SparkLog.Decimal.Basic

/-!
# Texts of integers

The text of an integer has only digits and a sign (`not_mem_int_chars`), and it tells the integer
(`int_text_injective`).
-/

namespace SparkLog.Decimal

variable {c : Char}

/-- A number is written in digits. -/
theorem is_digit_of_mem_digits {n : Nat} (h : c ∈ digits n) : c.isDigit = true :=
  Nat.isDigit_of_mem_toDigits (by decide) (by decide) h

/-- No other characters are in a number. -/
theorem not_mem_digits (h : c.isDigit = false) (n : Nat) : c ∉ digits n := by
  intro hmem
  rw [is_digit_of_mem_digits hmem] at h
  cases h

/-- The text of an integer has only digits and a sign. -/
theorem not_mem_int_chars (hdigit : c.isDigit = false) (hsign : c ≠ '-') (n : Int) :
    c ∉ intChars n := by
  unfold intChars
  split
  · simp [hsign, not_mem_digits hdigit]
  · exact not_mem_digits hdigit _

/-- The text of a natural number is its digits. -/
theorem int_text_nat (n : Nat) : (intText n).toList = digits n := by
  rw [intText, String.toList_ofList, intChars, if_neg (by omega), Int.natAbs_natCast]

/-- Different integers have different texts. -/
theorem int_text_injective {m n : Int} (h : intText m = intText n) : m = n := by
  have hchars : intChars m = intChars n := String.ofList_injective h
  have hdigits {a b : Nat} (h : digits a = digits b) : a = b := by
    calc
      a = Nat.ofDigitChars 10 (digits a) 0 := Nat.ofDigitChars_ten_toDigits.symm
      _ = Nat.ofDigitChars 10 (digits b) 0 := by rw [h]
      _ = b := Nat.ofDigitChars_ten_toDigits
  have hsign (a b : Nat) : digits a ≠ '-' :: digits b := fun h =>
    not_mem_digits (by decide) a (h ▸ List.mem_cons_self : '-' ∈ digits a)
  unfold intChars at hchars
  split at hchars <;> split at hchars
  · have hsame := hdigits (List.cons.inj hchars).2
    omega
  · exact absurd hchars.symm (hsign _ _)
  · exact absurd hchars (hsign _ _)
  · have hsame := hdigits hchars
    omega

end SparkLog.Decimal
