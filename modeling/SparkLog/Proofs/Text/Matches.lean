import Mathlib.Algebra.Order.Ring.Nat
import SparkLog.Text.PatternReader
import SparkLog.Proofs.Outcome

/-!
# What patterns match

`Pattern.Matches` says which parts of a text a pattern matches, with repetitions of any number of
rounds. The places that the matcher finds are exactly the ends of these parts (`mem_ends_iff`): a
repetition needs no more rounds than there are characters left and one, as rounds that match no
character can be left out or done once more (`Rounds.cut`, `Rounds.stretch`), and a pattern of one
width can only match behind a place from one place on (`Matches.fits`).
-/

namespace SparkLog.Text.Pattern

/-! ## Rounds -/

/-- A number of rounds leads from one place to another. -/
def Rounds (round : Nat → Nat → Prop) : Nat → Nat → Nat → Prop
  | 0, i, j => j = i
  | count + 1, i, j => ∃ k, round i k ∧ Rounds round count k j

section Rounds

variable {round : Nat → Nat → Prop} {i j m n : Nat}

/-- Rounds that do not lead back do not lead back together. -/
theorem Rounds.le (hround : ∀ i j, round i j → i ≤ j) (h : Rounds round n i j) : i ≤ j := by
  induction n generalizing i with
  | zero => exact Nat.le_of_eq (Eq.symm h)
  | succ n ih =>
      obtain ⟨k, hfirst, hrest⟩ := h
      exact Nat.le_trans (hround i k hfirst) (ih hrest)

/-- Of more rounds than the places that they lead on, one can be left out. -/
theorem Rounds.shorten (hround : ∀ i j, round i j → i ≤ j) (h : Rounds round (n + 1) i j)
    (hn : j - i ≤ n) : Rounds round n i j := by
  induction n generalizing i with
  | zero =>
      obtain ⟨k, hfirst, hrest⟩ := h
      have hk := hround i k hfirst
      have hj : j = k := hrest
      exact show j = i by omega
  | succ n ih =>
      obtain ⟨k, hfirst, hrest⟩ := h
      have hk := hround i k hfirst
      by_cases hsame : k = i
      · exact hsame ▸ hrest
      · have hj := hrest.le hround
        exact ⟨k, hfirst, ih hrest (by omega)⟩

/-- Of more rounds than the places that they lead on, one can be done once more. -/
theorem Rounds.lengthen (hround : ∀ i j, round i j → i ≤ j) (h : Rounds round n i j)
    (hn : j - i < n) : Rounds round (n + 1) i j := by
  induction n generalizing i with
  | zero => exact absurd hn (Nat.not_lt_zero _)
  | succ n ih =>
      obtain ⟨k, hfirst, hrest⟩ := h
      have hk := hround i k hfirst
      by_cases hsame : k = i
      · exact ⟨i, hsame ▸ hfirst, k, hfirst, hrest⟩
      · have hj := hrest.le hround
        exact ⟨k, hfirst, ih hrest (by omega)⟩

/-- Rounds can be cut down to the places that they lead on. -/
theorem Rounds.cut (hround : ∀ i j, round i j → i ≤ j) (h : Rounds round n i j) (hm : j - i ≤ m)
    (hle : m ≤ n) : Rounds round m i j := by
  induction n, hle using Nat.le_induction with
  | base => exact h
  | succ n hle ih => exact ih (h.shorten hround (hm.trans hle))

/-- More rounds than the places that they lead on can be stretched to any number. -/
theorem Rounds.stretch (hround : ∀ i j, round i j → i ≤ j) (h : Rounds round m i j)
    (hm : j - i < m) (hle : m ≤ n) : Rounds round n i j := by
  induction n, hle using Nat.le_induction with
  | base => exact h
  | succ n hle ih => exact ih.lengthen hround (hm.trans_le hle)

/-- Rounds lead forwards and not past the end of a text if each of them does. -/
theorem Rounds.leads {size : Nat} (hround : ∀ i j, round i j → i ≤ j ∧ j - i ≤ size - i)
    (h : Rounds round n i j) : i ≤ j ∧ j - i ≤ size - i := by
  induction n generalizing i with
  | zero => exact (show j = i from h) ▸ ⟨Nat.le_refl _, by omega⟩
  | succ n ih =>
      obtain ⟨k, hfirst, hrest⟩ := h
      have hk := hround i k hfirst
      have hj := ih hrest
      omega

/-- Rounds come one behind the other. -/
theorem rounds_add : Rounds round (m + n) i j ↔ ∃ k, Rounds round m i k ∧ Rounds round n k j := by
  induction m generalizing i with
  | zero => simp [Rounds]
  | succ m ih =>
      rw [Nat.add_right_comm]
      simp only [Rounds, ih]
      grind

end Rounds

section Places

variable {round : Nat → List Nat} {i j : Nat}

/-- A number of rounds is done from all places at once. -/
theorem mem_after {count : Nat} {places : List Nat} :
    j ∈ after round count places ↔ ∃ i ∈ places, Rounds (fun i j => j ∈ round i) count i j := by
  induction count generalizing places with
  | zero => simp [after, Rounds]
  | succ count ih =>
      simp only [after, ih, List.mem_eraseDups, List.mem_flatMap, Rounds]
      grind

/-- The search finds what up to a number of rounds lead to, if the rounds from all the places that
are not tried any more were seen. -/
theorem mem_within {count : Nat} {seen fresh : List Nat} (hfresh : ∀ i ∈ fresh, i ∈ seen)
    (hseen : ∀ i ∈ seen, i ∉ fresh → ∀ j ∈ round i, j ∈ seen) :
    j ∈ within round count seen fresh ↔
      ∃ n ≤ count, ∃ i ∈ seen, Rounds (fun i j => j ∈ round i) n i j := by
  induction count generalizing seen fresh with
  | zero => simp [within, Rounds]
  | succ count ih =>
      have hnext (j : Nat) : j ∈ (fresh.flatMap round).eraseDups.filter (fun place =>
          !seen.contains place) ↔ (∃ i ∈ fresh, j ∈ round i) ∧ j ∉ seen := by simp
      rw [within]
      generalize (fresh.flatMap round).eraseDups.filter _ = next at hnext ⊢
      have hstep : ∀ i ∈ seen, ∀ j ∈ round i, j ∈ seen ++ next := by
        intro i hi j hj
        by_cases hknown : j ∈ seen
        · exact List.mem_append_left _ hknown
        · have hi : i ∈ fresh := by_contra fun hnot => hknown (hseen i hi hnot j hj)
          exact List.mem_append_right _ ((hnext j).mpr ⟨⟨i, hi, hj⟩, hknown⟩)
      rw [ih (fun i hi => List.mem_append_right _ hi)
        fun i hi hnot => hstep i ((List.mem_append.mp hi).resolve_right hnot)]
      constructor
      · rintro ⟨n, hn, i, hi, h⟩
        rcases List.mem_append.mp hi with hi | hi
        · exact ⟨n, by omega, i, hi, h⟩
        · obtain ⟨⟨k, hk, hround⟩, -⟩ := (hnext i).mp hi
          exact ⟨n + 1, by omega, k, hfresh k hk, i, hround, h⟩
      · rintro ⟨_ | n, hn, i, hi, h⟩
        · exact ⟨0, by omega, i, List.mem_append_left _ hi, h⟩
        · obtain ⟨k, hround, h⟩ := h
          exact ⟨n, by omega, k, hstep i hi k hround, h⟩

/-- A repetition finds what any number of rounds between its bounds leads to. -/
theorem mem_repetition (hround : ∀ i j, j ∈ round i → i ≤ j) {least left : Nat}
    {further : Option Nat} (hleft : ∀ n, Rounds (fun i j => j ∈ round i) n i j → j - i ≤ left) :
    j ∈ repetition round least further left i ↔
      ∃ n, least ≤ n ∧ (∀ more ∈ further, n ≤ least + more) ∧
        Rounds (fun i j => j ∈ round i) n i j := by
  rw [repetition, mem_within (fun _ h => h) (fun _ h hnot => absurd h hnot)]
  simp only [mem_after, List.mem_singleton, exists_eq_left, ← rounds_add]
  -- Where more rounds are wanted than characters are left, some of those done match no character,
  -- and so many of these as are missing can be put in.
  constructor
  · rintro ⟨m, hm, h⟩
    have hj := hleft _ h
    by_cases hleast : least ≤ left + 1
    · rw [Nat.min_eq_left hleast] at h
      refine ⟨least + m, Nat.le_add_right _ _, ?_, h⟩
      rintro more rfl
      exact Nat.add_le_add_left (Nat.le_trans hm (Nat.min_le_right _ _)) least
    · refine ⟨least, Nat.le_refl _, fun more _ => Nat.le_add_right _ _, ?_⟩
      by_cases hcount : min least (left + 1) + m ≤ least
      · exact h.stretch hround (by omega) hcount
      · exact h.cut hround (by omega) (by omega)
  · rintro ⟨n, hleast, hfurther, h⟩
    have hj := hleft _ h
    generalize hbound : further.elim left (min left) = bound
    by_cases hn : n ≤ min least (left + 1) + bound
    · exact ⟨n - min least (left + 1), by omega, by rwa [Nat.add_sub_cancel' (by omega)]⟩
    · refine ⟨bound, Nat.le_refl _, h.cut hround ?_ (by omega)⟩
      cases further with
      | none =>
          have hbound : left = bound := hbound
          omega
      | some more =>
          have hbound : min left more = bound := hbound
          have hmore := hfurther more rfl
          omega

end Places

/-! ## Matches -/

/-- A pattern matches the part of a text between two places. -/
def Matches (text : Array Char) : Pattern → Nat → Nat → Prop
  | .nothing, i, j => j = i
  | .one set, i, j => (∃ c, text[i]? = some c ∧ set.has c) ∧ j = i + 1
  | .place mark, i, j => mark.holds text i ∧ j = i
  | .sequence first second, i, j => ∃ k, first.Matches text i k ∧ second.Matches text k j
  | .choice first second, i, j => first.Matches text i j ∨ second.Matches text i j
  | .group body, i, j => body.Matches text i j
  | .repeated least further body, i, j =>
    ∃ n, least ≤ n ∧ (∀ more ∈ further, n ≤ least + more) ∧ Rounds (body.Matches text) n i j
  | .ahead absent body, i, j => ((∃ k, body.Matches text i k) ↔ absent = false) ∧ j = i
  | .behind absent body, i, j => ((∃ k, body.Matches text k i) ↔ absent = false) ∧ j = i

variable {text : Array Char} {i j : Nat}

/-- A match leads forwards, and not past the end of the text. -/
theorem Matches.leads {pattern : Pattern} (h : pattern.Matches text i j) :
    i ≤ j ∧ j - i ≤ text.size - i := by
  induction pattern generalizing i j with
  | nothing => exact (show j = i from h) ▸ ⟨Nat.le_refl _, by omega⟩
  | one set =>
      obtain ⟨⟨c, hc, -⟩, rfl⟩ := h
      have hi := (Array.getElem?_eq_some_iff.mp hc).1
      omega
  | place mark => exact h.2 ▸ ⟨Nat.le_refl _, by omega⟩
  | sequence first second ihFirst ihSecond =>
      obtain ⟨k, hfirst, hsecond⟩ := h
      have hk := ihFirst hfirst
      have hj := ihSecond hsecond
      omega
  | choice first second ihFirst ihSecond => exact h.elim ihFirst ihSecond
  | group body ih => exact ih h
  | repeated least further body ih =>
      obtain ⟨n, -, -, h⟩ := h
      exact h.leads fun _ _ => ih
  | ahead absent body ih => exact h.2 ▸ ⟨Nat.le_refl _, by omega⟩
  | behind absent body ih => exact h.2 ▸ ⟨Nat.le_refl _, by omega⟩

/-! ## Widths -/

/-- A number of characters is within the bounds of a width. -/
def Fits (width : Nat × Option Nat) (count : Nat) : Prop :=
  width.1 ≤ count ∧ ∀ most ∈ width.2, count ≤ most

/-- What rounds match fits the width of a round, times their number. -/
theorem Rounds.fits {round : Nat → Nat → Prop} {width : Nat × Option Nat} {n : Nat}
    (hround : ∀ i j, round i j → i ≤ j ∧ Fits width (j - i)) (h : Rounds round n i j) :
    n * width.1 ≤ j - i ∧ ∀ most ∈ width.2, j - i ≤ n * most := by
  induction n generalizing i with
  | zero => exact (show j = i from h) ▸ by simp
  | succ n ih =>
      obtain ⟨k, hfirst, hrest⟩ := h
      obtain ⟨hk, hleast, hmost⟩ := hround i k hfirst
      obtain ⟨hleast', hmost'⟩ := ih hrest
      have hj := hrest.le fun i j h => (hround i j h).1
      refine ⟨by rw [Nat.add_mul]; omega, fun most h => ?_⟩
      have := hmost most h
      have := hmost' most h
      rw [Nat.add_mul]
      omega

/-- A match has as many characters as the width of the pattern allows. -/
theorem Matches.fits {pattern : Pattern} (h : pattern.Matches text i j) :
    Fits pattern.width (j - i) := by
  induction pattern generalizing i j with
  | nothing => exact (show j = i from h) ▸ by simp [Fits, width]
  | one set => exact h.2 ▸ by simp [Fits, width]
  | place mark => exact h.2 ▸ by simp [Fits, width]
  | sequence first second ihFirst ihSecond =>
      obtain ⟨k, hfirst, hsecond⟩ := h
      have hk := hfirst.leads
      have hj := hsecond.leads
      obtain ⟨hleast, hmost⟩ := ihFirst hfirst
      obtain ⟨hleast', hmost'⟩ := ihSecond hsecond
      refine ⟨show first.width.1 + second.width.1 ≤ j - i by omega, fun most h => ?_⟩
      obtain ⟨m, hm, n, hn, rfl⟩ : ∃ m ∈ first.width.2, ∃ n ∈ second.width.2, m + n = most := by
        simpa [width, Option.bind_eq_some_iff] using h
      have := hmost m hm
      have := hmost' n hn
      omega
  | choice first second ihFirst ihSecond =>
      have hwidth : (choice first second).width.2 = first.width.2.bind fun m =>
        second.width.2.map fun n => max m n := rfl
      refine ⟨min_le_iff.mpr (h.imp (fun h => (ihFirst h).1) fun h => (ihSecond h).1), ?_⟩
      intro most hmost
      obtain ⟨m, hm, n, hn, rfl⟩ : ∃ m ∈ first.width.2, ∃ n ∈ second.width.2, max m n = most := by
        simpa [hwidth, Option.bind_eq_some_iff] using hmost
      exact le_max_iff.mpr (h.imp (fun h => (ihFirst h).2 m hm) fun h => (ihSecond h).2 n hn)
  | group body ih => exact ih h
  | repeated least further body ih =>
      obtain ⟨n, hleast, hfurther, h⟩ := h
      obtain ⟨hcount, hcount'⟩ := h.fits fun i j h => ⟨h.leads.1, ih h⟩
      refine ⟨(Nat.mul_le_mul_right _ hleast).trans hcount, fun most hmost => ?_⟩
      rw [Option.mem_def, width] at hmost
      split at hmost
      case isTrue hnone =>
        obtain rfl : 0 = most := Option.some.inj hmost
        rcases hnone with hwidth | ⟨rfl, hnone⟩
        · exact hcount' 0 hwidth
        · obtain rfl := Nat.le_zero.mp (hfurther 0 hnone)
          exact Nat.le_of_eq (Nat.sub_eq_zero_of_le (Nat.le_of_eq h))
      case isFalse hsome =>
        obtain ⟨more, hmore, m, hm, rfl⟩ : ∃ more ∈ further, ∃ m ∈ body.width.2,
            (least + more) * m = most := by
          simpa [Option.bind_eq_some_iff] using hmost
        exact (hcount' m hm).trans (Nat.mul_le_mul_right m (hfurther more hmore))
  | ahead absent body ih => exact h.2 ▸ by simp [Fits, width]
  | behind absent body ih => exact h.2 ▸ by simp [Fits, width]

/-! ## The matcher -/

/-- The matcher finds the ends of the matches, for patterns that look back over one width. -/
theorem mem_ends_iff {pattern : Pattern} {limit : Nat} (hback : pattern.looksBack limit) :
    j ∈ pattern.ends text i ↔ pattern.Matches text i j := by
  induction pattern generalizing i j with
  | nothing => simp [ends, Matches]
  | one set =>
      simp only [ends, Matches, Option.any_eq_true]
      split <;> simp_all
  | place mark => simp [ends, Matches]
  | sequence first second ihFirst ihSecond =>
      obtain ⟨hfirst, hsecond⟩ := Bool.and_eq_true_iff.mp hback
      simp [ends, Matches, ihFirst hfirst, ihSecond hsecond]
  | choice first second ihFirst ihSecond =>
      obtain ⟨hfirst, hsecond⟩ := Bool.and_eq_true_iff.mp hback
      simp [ends, Matches, ihFirst hfirst, ihSecond hsecond]
  | group body ih => exact ih hback
  | repeated least further body ih =>
      have hbody : (fun i j => j ∈ body.ends text i) = body.Matches text := by
        funext i j
        exact propext (ih hback)
      have hround : ∀ i j, j ∈ body.ends text i → i ≤ j := fun i j h => ((ih hback).mp h).leads.1
      rw [ends, mem_repetition hround, hbody]
      · rfl
      · exact fun n h => (h.leads fun i j h => ((ih hback).mp h).leads).2
  | ahead absent body ih =>
      have hempty : (body.ends text i).isEmpty = false ↔ ∃ k, body.Matches text i k := by
        simp only [List.isEmpty_eq_false_iff_exists_mem, ih hback]
      rw [ends, Matches, ← hempty]
      cases (body.ends text i).isEmpty <;> cases absent <;> simp
  | behind absent body ih =>
      simp only [looksBack, Bool.and_eq_true, beq_iff_eq] at hback
      obtain ⟨⟨hone, -⟩, hbody⟩ := hback
      have hpresent : (decide (body.width.1 ≤ i) &&
          (body.ends text (i - body.width.1)).contains i) = true ↔
            ∃ k, body.Matches text k i := by
        simp only [Bool.and_eq_true, decide_eq_true_eq, List.contains_iff_mem, ih hbody]
        constructor
        · rintro ⟨-, h⟩
          exact ⟨_, h⟩
        · rintro ⟨k, h⟩
          have hk := h.leads
          obtain ⟨hleast, hmost⟩ := h.fits
          have hmost := hmost _ hone
          obtain rfl : i - body.width.1 = k := by omega
          exact ⟨by omega, h⟩
      rw [ends, Matches, ← hpresent]
      generalize (decide (body.width.1 ≤ i) && _) = present
      cases present <;> cases absent <;> simp

/-- A pattern that was read looks back over one width. -/
theorem looks_back_of_read {text : String} {pattern : Pattern} (h : read text = .ok pattern) :
    pattern.looksBack repetitionLimit := by
  obtain ⟨read, -, h⟩ := bind_eq_ok_iff.mp h
  split at h
  case isTrue hback => exact pure_eq_ok_iff.mp h ▸ hback
  case isFalse => exact nomatch h

/-- A pattern that was read matches a beginning of a text exactly if it matches a part of the text
from its start on. -/
theorem matches_start_iff {written : String} {pattern : Pattern} (h : read written = .ok pattern)
    (text : String) :
    pattern.matchesStart text ↔ ∃ j, pattern.Matches text.toList.toArray 0 j := by
  simp [matchesStart, ← mem_ends_iff (looks_back_of_read h), List.eq_nil_iff_forall_not_mem]

/-- A pattern that was read matches a whole text exactly if it matches the part of the text from its
start to its end. -/
theorem matches_all_iff {written : String} {pattern : Pattern} (h : read written = .ok pattern)
    (text : String) :
    pattern.matchesAll text ↔ pattern.Matches text.toList.toArray 0 text.length := by
  simp [matchesAll, ← mem_ends_iff (looks_back_of_read h)]

/-- Two or three rounds of a group. -/
example : (read "(a|b\\d)\x7b2,3\x7d").toOption.map (fun pattern =>
    ["a", "ab1", "ab1b2", "ab1b2a"].map pattern.matchesAll) = some [false, true, true, false] := by
  decide +kernel

end SparkLog.Text.Pattern
