import Mathlib
import SparkLog.Payload.Rounding
import SparkLog.Proofs.Decimal.Notation

/-!
# Rounded payloads

A payload whose text denotes a decimal is rounded as that decimal is, whether it is a text or a
number (`Payload.round_number`): to the nearest multiple of the step, or not at all if that has more
than 28 digits (`Payload.round_nearest`).
-/

namespace SparkLog.Payload

open Decimal (RoundsTo quantize? reading?)

variable {p : Payload} {d : Decimal}

/-- A payload is rounded by the decimal that its text denotes. -/
theorem round_number (hread : reading? p.render = some (.number d)) (digits : Int) :
    p.round digits = (quantize? d digits).elim (.error .notOnGrid)
      fun rounded => .ok (some rounded.toBinary64) := by
  cases p with
  | null =>
      have hnone : reading? "None" = none := by cbv
      cases hnone.symm.trans hread
  | int n =>
      have hint := Decimal.reading_int n
      split at hint
      · cases hint.symm.trans hread
        unfold round Decimal.roundInt?
        dsimp only
        cases quantize? (Decimal.ofInt n) digits <;> rfl
      · cases hint.symm.trans hread
  | float x =>
      cases x with
      | nan =>
          have hnan : reading? "nan" = some .quietNan := by cbv
          cases hnan.symm.trans hread
      | infinite negative =>
          have hinfinite : reading? (Binary64.infinite negative).text = some .infinity := by
            cases negative <;> cbv
          cases hinfinite.symm.trans hread
      | finite negative rank =>
          obtain ⟨_, hfinite, hsign, hvalue⟩ := Decimal.reading_finite negative rank
          cases hfinite.symm.trans hread
          unfold round Decimal.roundFloat?
          dsimp only
          rw [← Decimal.quantize_congr hsign hvalue digits]
          cases quantize? d digits <;> rfl
  | text | bool | list | object =>
      unfold round
      simp only [hread]
      cases quantize? d digits <;> rfl

/-- A payload whose text denotes a decimal is rounded to the nearest multiple of `10 ^ -digits`, of
two that are equally near to the one farther from zero, if that has at most 28 digits, and fails
otherwise. A rounded decimal is rounded to itself, multiples stay as they are, opposite decimals are
rounded to opposite ones, and the order is kept. -/
theorem round_nearest (hread : reading? p.render = some (.number d)) (digits : Int) :
    (∃ n : ℤ, RoundsTo digits d.value (n * 10 ^ (-digits)) ∧
      if n.natAbs < 10 ^ 28 then
        ∃ rounded, quantize? d digits = some rounded ∧ rounded.value = n * 10 ^ (-digits) ∧
          p.round digits = .ok (some rounded.toBinary64)
      else p.round digits = .error .notOnGrid) ∧
    ∀ rounded, quantize? d digits = some rounded →
      quantize? rounded digits = some rounded ∧
      ((∃ n : ℤ, d.value = n * 10 ^ (-digits)) → rounded.value = d.value) ∧
      (∀ other : Decimal, other.value = -d.value →
        ∃ opposite, quantize? other digits = some opposite ∧ opposite.value = -rounded.value) ∧
      ∀ other rounded', quantize? other digits = some rounded' → d.value ≤ other.value →
        rounded.value ≤ rounded'.value := by
  refine ⟨⟨Decimal.steps digits d.value, Decimal.rounds_to_steps digits d.value, ?_⟩,
    fun rounded h => ⟨Decimal.quantize_twice h, ?_, ?_, ?_⟩⟩
  · rw [round_number hread]
    by_cases hfits : (Decimal.steps digits d.value).natAbs < 10 ^ 28
    · have hsome := (Decimal.quantize_eq d digits).trans (if_pos hfits)
      rw [if_pos hfits, hsome]
      exact ⟨_, rfl, Decimal.value_of_quantize hsome, rfl⟩
    · have hnone := (Decimal.quantize_eq d digits).trans (if_neg hfits)
      rw [if_neg hfits, hnone]
      rfl
  · rintro ⟨n, hmultiple⟩
    exact Decimal.quantize_multiple h hmultiple
  · exact fun other hother => Decimal.quantize_opposite h hother
  · exact fun other rounded' h' hle => Decimal.quantize_mono h h' hle

/-- Rounded to one place, the text `9.95` carries into a new digit. -/
theorem round_nearest_carry :
    reading? (Payload.text "9.95").render = some (.number ⟨false, 995, -2⟩) ∧
      (∃ n : ℤ, RoundsTo 1 (Decimal.value ⟨false, 995, -2⟩) (n * 10 ^ (-1 : ℤ)) ∧
        Decimal.value ⟨false, 100, -1⟩ = n * 10 ^ (-1 : ℤ) ∧
        (Payload.text "9.95").round 1 = .ok (some (Decimal.toBinary64 ⟨false, 100, -1⟩))) ∧
      quantize? ⟨false, 100, -1⟩ 1 = some ⟨false, 100, -1⟩ := by
  have hread : reading? (Payload.text "9.95").render = some (.number ⟨false, 995, -2⟩) := by cbv
  have hgrid : quantize? ⟨false, 995, -2⟩ 1 = some ⟨false, 100, -1⟩ := by decide
  obtain ⟨⟨n, hnearest, hround⟩, hrounded⟩ := round_nearest hread 1
  refine ⟨hread, ⟨n, hnearest, ?_⟩, (hrounded _ hgrid).1⟩
  split at hround
  · obtain ⟨rounded, hsome, hvalue, hok⟩ := hround
    cases hgrid.symm.trans hsome
    exact ⟨hvalue, hok⟩
  · rw [round_number hread, hgrid] at hround
    cases hround

end SparkLog.Payload
