import Mathlib.Data.List.TakeWhile
import Mathlib.Tactic.Ring
import SparkLog.Decimal.Numeral

/-!
# Joined numerals

Two numerals that are written one behind the other may read as a third one. Digits that follow
others move them to higher places (`Decimal.read_digits_behind`), so the joined numeral is the sum
of the two only where the first one ends in a point with zeros, or counts nothing
(`Decimal.joined_integer_iff`).
-/

namespace SparkLog

namespace Text

/-! ## Padding -/

section Padding

variable {drop : Char → Bool} {cs ds : List Char} {c : Char}

/-- A character that is no padding is not dropped. -/
theorem mem_drop_while_iff (hc : drop c = false) : c ∈ cs.dropWhile drop ↔ c ∈ cs := by
  induction cs with
  | nil => rfl
  | cons first rest ih =>
      rw [List.dropWhile_cons]
      split
      · rename_i hfirst
        have hne : c ≠ first := by
          rintro rfl
          rw [hc] at hfirst
          cases hfirst
        simp [ih, hne]
      · rfl

/-- A character that is no padding is in a text exactly if it is in the stripped one. -/
theorem mem_strip_iff (hc : drop c = false) : c ∈ strip drop cs ↔ c ∈ cs := by
  rw [strip, List.mem_reverse, mem_drop_while_iff hc, List.mem_reverse, mem_drop_while_iff hc]

/-- Without the padding in front, the padding behind is left. -/
theorem drop_front_eq (cs : List Char) :
    ∃ pad, (∀ c ∈ pad, drop c = true) ∧ cs.dropWhile drop = strip drop cs ++ pad := by
  refine ⟨((cs.dropWhile drop).reverse.takeWhile drop).reverse, fun c hc => ?_, ?_⟩
  · exact List.mem_takeWhile_imp (List.mem_reverse.mp hc)
  · rw [strip, ← List.reverse_append, List.takeWhile_append_dropWhile, List.reverse_reverse]

/-- Without the padding behind, the padding in front is left. -/
theorem drop_back_eq (hds : strip drop ds ≠ []) :
    ∃ pad, (∀ c ∈ pad, drop c = true) ∧
      (ds.reverse.dropWhile drop).reverse = pad ++ strip drop ds := by
  refine ⟨ds.takeWhile drop, fun c hc => List.mem_takeWhile_imp hc, ?_⟩
  have hcore : (ds.dropWhile drop).reverse.dropWhile drop ≠ [] := by
    simpa [strip] using hds
  have hparts : ds.reverse = (ds.dropWhile drop).reverse ++ (ds.takeWhile drop).reverse := by
    rw [← List.reverse_append, List.takeWhile_append_dropWhile]
  rw [hparts, List.dropWhile_append, if_neg (by simpa using hcore), List.reverse_append,
    List.reverse_reverse, strip]

/-- Of two joined texts the inner ends keep their padding. -/
theorem strip_append (hcs : strip drop cs ≠ []) (hds : strip drop ds ≠ []) :
    ∃ pad, (∀ c ∈ pad, drop c = true) ∧
      strip drop (cs ++ ds) = strip drop cs ++ (pad ++ strip drop ds) := by
  obtain ⟨behind, hbehind, hfront⟩ := @drop_front_eq drop cs
  obtain ⟨before, hbefore, hback⟩ := drop_back_eq hds
  have hfirst : cs.dropWhile drop ≠ [] := by
    rw [hfront]
    exact List.append_ne_nil_of_left_ne_nil hcs _
  have hsecond : ds.reverse.dropWhile drop ≠ [] := by
    rw [← List.reverse_ne_nil_iff, hback]
    exact List.append_ne_nil_of_right_ne_nil _ hds
  refine ⟨behind ++ before, fun c hc => ?_, ?_⟩
  · exact (List.mem_append.mp hc).elim (hbehind c) (hbefore c)
  · calc strip drop (cs ++ ds)
      _ = cs.dropWhile drop ++ (ds.reverse.dropWhile drop).reverse := by
        rw [strip, List.dropWhile_append, if_neg (by simpa using hfirst), List.reverse_append,
          List.dropWhile_append, if_neg (by simpa using hsecond), List.reverse_append,
          List.reverse_reverse]
      _ = strip drop cs ++ (behind ++ before ++ strip drop ds) := by
        rw [hfront, hback, List.append_assoc, List.append_assoc]

end Padding

end Text

namespace Decimal

open Text

/-! ## Digits -/

section Digits

variable {digit? : Char → Option Nat} {cs left : List Char} {value count read total : Nat}

/-- A digit is taken. -/
theorem read_digits_digit {c : Char} {d : Nat} (hdigit : digit? c = some d) (rest : List Char)
    (value count : Nat) : readDigits? digit? (c :: rest) value count =
      readDigits? digit? rest (10 * value + d) (count + 1) := by
  rw [readDigits?.eq_def]
  simp only [hdigit]

/-- Behind a digit, what is neither a digit nor an underscore is left. -/
theorem read_digits_stop {c : Char} (hdigit : digit? c = none) (hunderscore : c ≠ '_')
    (hcount : 0 < count) (rest : List Char) :
    readDigits? digit? (c :: rest) value count = some (value, count, c :: rest) := by
  rw [readDigits?.eq_def]
  simp only [hdigit]
  rw [if_neg hcount.ne', if_neg hunderscore]

/-- Digits have been read where the reading succeeds. -/
theorem read_digits_count (h : readDigits? digit? cs value count = some (read, total, left)) :
    0 < total := by
  fun_induction readDigits? digit? cs value count with
  | case1 | case4 | case6 | case7 => cases h
  | case2 value count hcount | case8 _ _ value count _ hcount =>
      cases h
      exact Nat.pos_of_ne_zero hcount
  | case3 c rest value count d hd ih => exact ih h
  | case5 value count _ next after d hd _ ih => exact ih h

/-- What is read are digits and underscores. -/
theorem read_digits_run (h : readDigits? digit? cs value count = some (read, total, left)) :
    ∃ run, cs = run ++ left ∧ ∀ c ∈ run, c = '_' ∨ (digit? c).isSome := by
  fun_induction readDigits? digit? cs value count with
  | case1 | case4 | case6 | case7 => cases h
  | case2 | case8 =>
      cases h
      exact ⟨[], rfl, fun c hc => absurd hc List.not_mem_nil⟩
  | case3 c rest value count d hd ih =>
      obtain ⟨run, rfl, hrun⟩ := ih h
      exact ⟨c :: run, rfl, List.forall_mem_cons.mpr ⟨.inr (by rw [hd]; rfl), hrun⟩⟩
  | case5 value count _ next after d hd _ ih =>
      obtain ⟨run, rfl, hrun⟩ := ih h
      exact ⟨'_' :: next :: run, rfl, List.forall_mem_cons.mpr ⟨.inl rfl,
        List.forall_mem_cons.mpr ⟨.inr (by rw [hd]; rfl), hrun⟩⟩⟩

/-- Digits at the end of a text are continued by what follows it. -/
theorem read_digits_append (h : readDigits? digit? cs value count = some (read, total, left))
    (more : List Char) : readDigits? digit? (cs ++ more) value count =
      if left = [] then readDigits? digit? more read total
      else some (read, total, left ++ more) := by
  fun_induction readDigits? digit? cs value count with
  | case1 | case4 | case6 | case7 => cases h
  | case2 value count hcount =>
      cases h
      rfl
  | case3 c rest value count d hd ih =>
      rw [List.cons_append, read_digits_digit hd]
      exact ih h
  | case5 value count hcount next after d hd hnone ih =>
      simpa [readDigits?, hd, hnone, hcount] using ih h
  | case8 c rest value count hnone hcount hunderscore =>
      cases h
      exact read_digits_stop hnone hunderscore (Nat.pos_of_ne_zero hcount) _

/-- Digits that follow others move these to higher places. -/
theorem read_digits_behind (h : readDigits? digit? cs value count = some (read, total, left))
    (front places : Nat) :
    readDigits? digit? cs (front * 10 ^ count + value) (places + count) =
      some (front * 10 ^ total + read, places + total, left) := by
  fun_induction readDigits? digit? cs value count with
  | case1 | case4 | case6 | case7 => cases h
  | case2 value count hcount =>
      cases h
      simp [readDigits?, hcount]
  | case3 c rest value count d hd ih =>
      have hvalue : 10 * (front * 10 ^ count + value) + d =
          front * 10 ^ (count + 1) + (10 * value + d) := by ring
      rw [read_digits_digit hd, hvalue]
      exact ih h
  | case5 value count hcount next after d hd hnone ih =>
      have hvalue : 10 * (front * 10 ^ count + value) + d =
          front * 10 ^ (count + 1) + (10 * value + d) := by ring
      simpa [readDigits?, hd, hnone, hcount, hvalue, Nat.add_assoc] using ih h
  | case8 c rest value count hnone hcount hunderscore =>
      cases h
      exact read_digits_stop hnone hunderscore (by omega) _

/-- Zeros count nothing. -/
theorem read_digits_zeros (hzeros : ∀ c ∈ cs, c = '0')
    (h : readDigits? asciiDigitValue? cs 0 count = some (read, total, left)) : read = 0 := by
  induction cs generalizing count with
  | nil =>
      simp only [readDigits?] at h
      split at h
      · cases h
      · cases h
        rfl
  | cons c rest ih =>
      obtain ⟨rfl, hrest⟩ := List.forall_mem_cons.mp hzeros
      exact ih hrest h

end Digits

/-! ## Numerals -/

/-- The sign is read off the first character. -/
theorem read_sign_append {cs : List Char} (h : cs ≠ []) (more : List Char) :
    readSign (cs ++ more) = ((readSign cs).1, (readSign cs).2 ++ more) := by
  obtain ⟨first, rest, rfl⟩ := List.exists_cons_of_ne_nil h
  rw [List.cons_append]
  unfold readSign
  split
  · rename_i hcons
    cases hcons
    rfl
  · rename_i hcons
    cases hcons
    rfl
  · rename_i hminus hplus
    split
    · rename_i hcons
      cases hcons
      exact absurd rfl (hminus _)
    · rename_i hcons
      cases hcons
      exact absurd rfl (hplus _)
    · rfl

/-- A sign is a minus if the numeral is negative, a plus or nothing otherwise. -/
theorem read_sign_cases {cs body : List Char} {negative : Bool}
    (h : readSign cs = (negative, body)) :
    negative = true ∧ cs = '-' :: body ∨ negative = false ∧ (cs = '+' :: body ∨ cs = body) := by
  unfold readSign at h
  split at h <;> cases h
  · exact .inl ⟨rfl, rfl⟩
  · exact .inr ⟨rfl, .inl rfl⟩
  · exact .inr ⟨rfl, .inr rfl⟩

/-- Where there are only zeros, every character is one. -/
theorem eq_zero_of_only_zeros {cs : List Char} (h : onlyZeros cs = true) {c : Char} (hc : c ∈ cs) :
    c = '0' := by
  simp only [onlyZeros, Bool.and_eq_true, List.all_eq_true, beq_iff_eq] at h
  exact h.2 c hc

/-- What may follow the digits of an integer: nothing, or a point with zeros. -/
def IsFraction (cs : List Char) : Prop :=
  cs = [] ∨ ∃ zeros, cs = '.' :: zeros ∧ onlyZeros zeros = true

/-- A text is a sign and a body, between padding, and the body is digits and a fraction. -/
structure Written (text : String) (negative : Bool) (body : List Char) (magnitude count : Nat)
    (fraction : List Char) : Prop where
  sign : readSign (strip isWhiteSpace text.toList) = (negative, body)
  digits : readDigits? asciiDigitValue? body 0 0 = some (magnitude, count, fraction)
  is_fraction : IsFraction fraction

/-- An integer that fits is that of its sign and its magnitude. -/
theorem eq_signed_of_fitting {negative : Bool} {magnitude : Nat} {n : Int}
    (h : fitting? negative magnitude = some n) : n = signed negative magnitude := by
  unfold fitting? at h
  split at h
  · exact (Option.some.inj h).symm
  · cases h

/-- A text that is read as an integer is written like one. -/
theorem written_of_field_integer {text : String} {n : Int} (h : fieldInteger? text = some n) :
    ∃ negative body magnitude count fraction,
      Written text negative body magnitude count fraction ∧ n = signed negative magnitude := by
  cases hsign : readSign (strip isWhiteSpace text.toList) with
  | mk negative body =>
      simp only [fieldInteger?, hsign] at h
      split at h
      · rename_i magnitude count hdigits
        exact ⟨negative, body, magnitude, count, [], ⟨hsign, hdigits, .inl rfl⟩,
          eq_signed_of_fitting h⟩
      · rename_i magnitude count zeros hdigits
        split at h
        · rename_i hzeros
          exact ⟨negative, body, magnitude, count, _, ⟨hsign, hdigits, .inr ⟨zeros, rfl, hzeros⟩⟩,
            eq_signed_of_fitting h⟩
        · cases h
      · cases h

namespace Written

variable {text : String} {negative : Bool} {body fraction : List Char} {magnitude count : Nat}

/-- There are characters besides the padding. -/
theorem strip_ne_nil (h : Written text negative body magnitude count fraction) :
    strip isWhiteSpace text.toList ≠ [] := by
  intro hnil
  have hsign := h.sign
  rw [hnil] at hsign
  cases hsign
  exact absurd h.digits (by simp [readDigits?])

/-- What is neither a digit nor an underscore stands in the fraction if it stands in the body. -/
theorem mem_body_iff (h : Written text negative body magnitude count fraction) {c : Char}
    (hdigit : asciiDigitValue? c = none) (hunderscore : c ≠ '_') : c ∈ body ↔ c ∈ fraction := by
  obtain ⟨run, rfl, hrun⟩ := read_digits_run h.digits
  refine ⟨fun hc => ?_, List.mem_append_right run⟩
  obtain hc | hc := List.mem_append.mp hc
  · obtain rfl | hsome := hrun c hc
    · exact absurd rfl hunderscore
    · rw [hdigit] at hsome
      cases hsome
  · exact hc

/-- A text with a point is one with a fraction. -/
theorem mem_point_iff (h : Written text negative body magnitude count fraction) :
    '.' ∈ text.toList ↔ fraction ≠ [] := by
  have hbody : '.' ∈ body ↔ '.' ∈ fraction := h.mem_body_iff (by decide) (by decide)
  have hfraction : '.' ∈ fraction ↔ fraction ≠ [] := by
    obtain rfl | ⟨zeros, rfl, -⟩ := h.is_fraction <;> simp
  rw [← hfraction, ← hbody, ← mem_strip_iff (by decide : isWhiteSpace '.' = false)]
  obtain ⟨-, hsign⟩ | ⟨-, hsign | hsign⟩ := read_sign_cases h.sign <;> rw [hsign] <;> simp

/-- A text with a minus is one of a negative sign. -/
theorem mem_minus_iff (h : Written text negative body magnitude count fraction) :
    '-' ∈ text.toList ↔ negative = true := by
  have hfraction : '-' ∉ fraction := by
    obtain rfl | ⟨zeros, rfl, hzeros⟩ := h.is_fraction
    · exact List.not_mem_nil
    · intro hmem
      obtain hmem | hmem := List.mem_cons.mp hmem
      · exact absurd hmem (by decide)
      · exact absurd (eq_zero_of_only_zeros hzeros hmem) (by decide)
  have hbody : '-' ∉ body := mt (h.mem_body_iff (by decide) (by decide)).mp hfraction
  rw [← mem_strip_iff (by decide : isWhiteSpace '-' = false)]
  obtain ⟨rfl, hsign⟩ | ⟨rfl, hsign | hsign⟩ := read_sign_cases h.sign <;> rw [hsign] <;>
    simp [hbody]

end Written

/-- A character that is neither padding nor a sign. -/
def IsInner (c : Char) : Prop :=
  isWhiteSpace c = false ∧ c ≠ '-' ∧ c ≠ '+'

/-- A digit is neither padding nor a sign. -/
theorem is_inner_of_digit {c : Char} (h : (asciiDigitValue? c).isSome) : IsInner c := by
  have hrange : '0' ≤ c ∧ c ≤ '9' := by
    by_contra hrange
    rw [asciiDigitValue?, if_neg hrange] at h
    cases h
  have hlow : 48 ≤ c.toNat := hrange.1
  have hhigh : c.toNat ≤ 57 := hrange.2
  refine ⟨?_, ?_, ?_⟩
  · simp only [isWhiteSpace, Bool.or_eq_false_iff, Bool.and_eq_false_iff, decide_eq_false_iff_not,
      beq_eq_false_iff_ne]
    omega
  · rintro rfl
    exact absurd hlow (by decide)
  · rintro rfl
    exact absurd hlow (by decide)

/-- Digits are followed neither by padding nor by a sign, up to the end of the numeral. -/
theorem is_inner_of_continued {c : Char} {rest fraction : List Char} {value count read total : Nat}
    (h : readDigits? asciiDigitValue? (c :: rest) value count = some (read, total, fraction))
    (hcount : 0 < count) (hfraction : IsFraction fraction) : IsInner c := by
  cases hdigit : asciiDigitValue? c with
  | some digit => exact is_inner_of_digit (by rw [hdigit]; rfl)
  | none =>
      by_cases hunderscore : c = '_'
      · subst hunderscore
        exact ⟨by decide, by decide, by decide⟩
      · rw [read_digits_stop hdigit hunderscore hcount] at h
        cases h
        obtain hnil | ⟨zeros, hcons, -⟩ := hfraction
        · cases hnil
        · cases hcons
          exact ⟨by decide, by decide, by decide⟩

/-! ## Joined -/

section Joined

variable {first second : String} {negative negative' negativeBoth : Bool}
  {body body' bodyBoth fraction fraction' fractionBoth : List Char}
  {magnitude magnitude' magnitudeBoth count count' countBoth : Nat}

/-- A numeral is neither padded nor signed where it starts with what is neither padding nor a
sign. -/
theorem Written.bare (h : Written second negative' body' magnitude' count' fraction')
    {pad : List Char} (hpad : ∀ c ∈ pad, isWhiteSpace c = true)
    (hhead : ∀ c rest, pad ++ strip isWhiteSpace second.toList = c :: rest → IsInner c) :
    negative' = false ∧ pad ++ strip isWhiteSpace second.toList = body' := by
  cases pad with
  | cons c rest =>
      have hwhite := (hhead c _ rfl).1
      rw [hpad c List.mem_cons_self] at hwhite
      cases hwhite
  | nil =>
      rw [List.nil_append] at hhead ⊢
      obtain ⟨-, hsign⟩ | ⟨hnegative, hsign | hsign⟩ := read_sign_cases h.sign
      · exact absurd rfl (hhead _ _ hsign).2.1
      · exact absurd rfl (hhead _ _ hsign).2.2
      · exact ⟨hnegative, hsign⟩

/-- Two numerals that make a third one: the first one gives the sign, and the second one has none.
Either the digits of the second one follow those of the first one, or the first one has a fraction
and the second one is zeros. -/
theorem Written.joined (h : Written first negative body magnitude count fraction)
    (h' : Written second negative' body' magnitude' count' fraction')
    (hboth : Written (first ++ second) negativeBoth bodyBoth magnitudeBoth countBoth
      fractionBoth) :
    negativeBoth = negative ∧ negative' = false ∧
      (fraction = [] ∧ magnitudeBoth = magnitude * 10 ^ count' + magnitude' ∨
        fraction ≠ [] ∧ magnitudeBoth = magnitude ∧ magnitude' = 0) := by
  obtain ⟨pad, hpad, hstrip⟩ := strip_append h.strip_ne_nil h'.strip_ne_nil
  have hsign := hboth.sign
  rw [String.toList_append, hstrip, read_sign_append h.strip_ne_nil, h.sign] at hsign
  obtain ⟨rfl, rfl⟩ := Prod.mk.inj hsign
  have hdigits := hboth.digits
  rw [read_digits_append h.digits] at hdigits
  have hcount := read_digits_count h.digits
  obtain rfl | ⟨zeros, rfl, hzeros⟩ := h.is_fraction
  -- Without a fraction, reading goes on with the digits of the second numeral.
  · rw [if_pos rfl] at hdigits
    obtain ⟨rfl, hbody⟩ := h'.bare hpad fun c rest hcons =>
      is_inner_of_continued (hcons ▸ hdigits) hcount hboth.is_fraction
    have hbehind := read_digits_behind h'.digits magnitude count
    rw [pow_zero, Nat.mul_one, Nat.add_zero, Nat.add_zero, ← hbody, hdigits] at hbehind
    cases hbehind
    exact ⟨rfl, rfl, .inl ⟨rfl, rfl⟩⟩
  -- With one, the second numeral only makes the fraction longer.
  · rw [if_neg (List.cons_ne_nil _ _)] at hdigits
    cases hdigits
    have hrest : ∀ c ∈ pad ++ strip isWhiteSpace second.toList, c = '0' := by
      obtain hnil | ⟨all, hall, hzeros⟩ := hboth.is_fraction
      · cases hnil
      · cases hall
        exact fun c hc => eq_zero_of_only_zeros hzeros (List.mem_append_right _ hc)
    obtain ⟨rfl, hbody⟩ := h'.bare hpad fun c rest hcons => by
      obtain rfl := hrest c (hcons ▸ List.mem_cons_self)
      exact is_inner_of_digit (by decide)
    rw [hbody] at hrest
    exact ⟨rfl, rfl, .inr ⟨List.cons_ne_nil _ _, rfl, read_digits_zeros hrest h'.digits⟩⟩

end Joined

/-- A magnitude is zero exactly if the integer is. -/
theorem signed_eq_zero_iff {negative : Bool} {magnitude : Nat} :
    signed negative magnitude = 0 ↔ magnitude = 0 := by
  cases negative <;> simp [signed]

/-- An integer that is moved to higher places, with a magnitude behind it, is their sum only where
the integer is zero, and the magnitude has no minus before it. -/
theorem shifted_eq_sum_iff {negative : Bool} {magnitude behind places : Nat}
    (hplaces : 0 < places) :
    signed negative (magnitude * 10 ^ places + behind) =
        signed negative magnitude + signed false behind ↔
      magnitude = 0 ∧ (behind = 0 ∨ negative = false) := by
  have hpower : 2 ≤ 10 ^ places := Nat.one_lt_pow hplaces.ne' (by decide)
  obtain ⟨rest, hpower⟩ := Nat.exists_eq_add_of_le hpower
  have hzero : magnitude = 0 → magnitude * rest = 0 := by
    rintro rfl
    exact Nat.zero_mul rest
  rw [hpower, Nat.mul_add]
  generalize magnitude * rest = more at hzero ⊢
  unfold signed
  cases negative with
  | true =>
      simp only [Bool.false_eq_true, reduceCtorEq, if_true, if_false, or_false]
      omega
  | false =>
      simp only [Bool.false_eq_true, if_false, or_true, and_true]
      omega

/-- Numerals that make a third one make their sum exactly if the first one has a point, or counts
nothing and puts no minus before the second one. -/
theorem joined_integer_iff {first second : String} {m n total : Int}
    (hm : fieldInteger? first = some m) (hn : fieldInteger? second = some n)
    (htotal : fieldInteger? (first ++ second) = some total) :
    total = m + n ↔ '.' ∈ first.toList ∨ m = 0 ∧ (n = 0 ∨ '-' ∉ first.toList) := by
  obtain ⟨negative, body, magnitude, count, fraction, h, rfl⟩ := written_of_field_integer hm
  obtain ⟨negative', body', magnitude', count', fraction', h', rfl⟩ := written_of_field_integer hn
  obtain ⟨negativeBoth, _, _, _, _, hboth, rfl⟩ := written_of_field_integer htotal
  obtain ⟨rfl, rfl, ⟨hnone, rfl⟩ | ⟨hsome, rfl, rfl⟩⟩ := h.joined h' hboth
  · rw [shifted_eq_sum_iff (read_digits_count h'.digits), h.mem_point_iff, h.mem_minus_iff,
      signed_eq_zero_iff, signed_eq_zero_iff, Bool.not_eq_true]
    simp [hnone]
  · rw [h.mem_point_iff]
    exact iff_of_true (by simp [signed]) (.inl hsome)

end Decimal

end SparkLog
