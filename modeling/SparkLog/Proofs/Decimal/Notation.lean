import Mathlib
import SparkLog.Decimal.Notation
import SparkLog.Proofs.Decimal.Digits
import SparkLog.Proofs.Decimal.Joined
import SparkLog.Proofs.Decimal.HalfUp
import SparkLog.Proofs.Decimal.Shortest

/-!
# Written numbers read back

Digits that are written in positional or scientific notation are read with the value that the
position of their point gives them (`Decimal.read_positional`, `Decimal.read_scientific`). So the
text of an integer denotes the integer (`Decimal.reading_int`), and the text of a finite
floating-point number the value of its shortest decimal (`Decimal.reading_finite`).
-/

namespace SparkLog.Decimal

open Text

variable {c : Char} {cs ds whole fraction suffix : List Char} {value count : Nat} {exponent : Int}

/-! ## Digits and exponents -/

/-- The value of a digit from `0` to `9`. -/
theorem digit_value_of_digit (h : c.isDigit = true) :
    digitValue? c = some (c.toNat - '0'.toNat) := by
  have hrange : 48 ≤ c.val ∧ c.val ≤ 57 := by
    simpa [Char.isDigit] using h
  exact if_pos hrange

/-- Digits are read one after the other. -/
theorem read_digits_of_digits (hds : ∀ c ∈ ds, c.isDigit = true) (rest : List Char)
    (value count : Nat) : readDigits? digitValue? (ds ++ rest) value count =
      readDigits? digitValue? rest (Nat.ofDigitChars 10 ds value) (count + ds.length) := by
  induction ds generalizing value count with
  | nil => rfl
  | cons c ds ih =>
      obtain ⟨hc, hds⟩ := List.forall_mem_cons.mp hds
      rw [List.cons_append, read_digits_digit (digit_value_of_digit hc), ih hds,
        Nat.ofDigitChars_cons, List.length_cons, Nat.add_right_comm, Nat.add_assoc]

/-- What stands behind the digits of a numeral: nothing, or the mark of an exponent. -/
def IsSuffix (suffix : List Char) : Prop :=
  suffix = [] ∨ ∃ rest, suffix = 'e' :: rest

/-- Behind digits, a suffix is left. -/
theorem read_digits_suffix (h : IsSuffix suffix) (hcount : 0 < count) :
    readDigits? digitValue? suffix value count = some (value, count, suffix) := by
  obtain rfl | ⟨rest, rfl⟩ := h
  · rw [readDigits?, if_neg hcount.ne']
  · exact read_digits_stop (by decide) (by decide) hcount rest

/-- Digits begin with no point. -/
theorem ne_point (hwhole : ∀ c ∈ whole, c.isDigit = true) (hne : whole ≠ [])
    (more rest : List Char) : whole ++ more ≠ '.' :: rest := by
  obtain ⟨first, behind, rfl⟩ := List.exists_cons_of_ne_nil hne
  intro h
  obtain rfl : first = '.' := (List.cons.inj h).1
  have hdigit := hwhole '.' List.mem_cons_self
  cases hdigit

/-- Digits without a point. -/
theorem read_unsigned_whole (hwhole : ∀ c ∈ whole, c.isDigit = true) (hne : whole ≠ [])
    (hsuffix : IsSuffix suffix) (hexponent : readExponent? suffix = some exponent) :
    readUnsigned? (whole ++ suffix) = some (Nat.ofDigitChars 10 whole 0, exponent) := by
  have hread : readDigits? digitValue? (whole ++ suffix) 0 0 =
      some (Nat.ofDigitChars 10 whole 0, whole.length, suffix) := by
    rw [read_digits_of_digits hwhole, Nat.zero_add]
    exact read_digits_suffix hsuffix (List.length_pos_iff.mpr hne)
  unfold readUnsigned?
  split
  · rename_i hpoint
    exact absurd hpoint (ne_point hwhole hne _ _)
  · rw [hread]
    obtain rfl | ⟨rest, rfl⟩ := hsuffix
    · simp [hexponent]
    · simp [hexponent]

/-- Digits around a point. -/
theorem read_unsigned_point (hwhole : ∀ c ∈ whole, c.isDigit = true) (hne : whole ≠ [])
    (hfraction : ∀ c ∈ fraction, c.isDigit = true) (hne' : fraction ≠ [])
    (hsuffix : IsSuffix suffix) (hexponent : readExponent? suffix = some exponent) :
    readUnsigned? (whole ++ '.' :: (fraction ++ suffix)) =
      some (Nat.ofDigitChars 10 (whole ++ fraction) 0, exponent - fraction.length) := by
  have hread : readDigits? digitValue? (whole ++ '.' :: (fraction ++ suffix)) 0 0 =
      some (Nat.ofDigitChars 10 whole 0, whole.length, '.' :: (fraction ++ suffix)) := by
    rw [read_digits_of_digits hwhole, Nat.zero_add]
    exact read_digits_stop (by decide) (by decide) (List.length_pos_iff.mpr hne) _
  have hrest (value : Nat) : readDigits? digitValue? (fraction ++ suffix) value 0 =
      some (Nat.ofDigitChars 10 fraction value, fraction.length, suffix) := by
    rw [read_digits_of_digits hfraction, Nat.zero_add]
    exact read_digits_suffix hsuffix (List.length_pos_iff.mpr hne')
  obtain ⟨first, more, rfl⟩ := List.exists_cons_of_ne_nil hne'
  have hfirst : (digitValue? first).isSome = true := by
    rw [digit_value_of_digit (hfraction first List.mem_cons_self)]
    rfl
  unfold readUnsigned?
  split
  · rename_i hpoint
    exact absurd hpoint (ne_point hwhole hne _ _)
  · rw [hread]
    simp only [List.cons_append] at hrest ⊢
    simp [hfirst, hrest, hexponent, Nat.ofDigitChars_append]

/-- Digits around a point, without an exponent. -/
theorem read_unsigned_places (hwhole : ∀ c ∈ whole, c.isDigit = true) (hne : whole ≠ [])
    (hfraction : ∀ c ∈ fraction, c.isDigit = true) (hne' : fraction ≠ []) :
    readUnsigned? (whole ++ '.' :: fraction) =
      some (Nat.ofDigitChars 10 (whole ++ fraction) 0, -(fraction.length : ℤ)) := by
  have hread := read_unsigned_point hwhole hne hfraction hne' (.inl rfl)
    (rfl : readExponent? [] = some 0)
  rwa [List.append_nil, zero_sub] at hread

/-- Zeros are digits. -/
theorem is_digit_of_mem_zeros (h : c ∈ zeros count) : c.isDigit = true := by
  rw [List.eq_of_mem_replicate h]
  rfl

/-- Zeros in front of digits count nothing. -/
theorem value_of_zeros_append (count : Nat) (ds : List Char) :
    Nat.ofDigitChars 10 (zeros count ++ ds) 0 = Nat.ofDigitChars 10 ds 0 := by
  rw [Nat.ofDigitChars_append, zeros, Nat.ofDigitChars_replicate_zero, Nat.mul_zero]

/-- The value of the digits of a number is the number. -/
theorem value_of_digits (n : Nat) : Nat.ofDigitChars 10 (digits n) 0 = n :=
  Nat.ofDigitChars_ten_toDigits

/-- A written exponent is read. -/
theorem read_exponent_chars (exponent : Int) :
    readExponent? (exponentChars exponent) = some exponent := by
  have hdigits : ∀ c ∈ zeros (2 - (digits exponent.natAbs).length) ++ digits exponent.natAbs,
      c.isDigit = true :=
    List.forall_mem_append.mpr
      ⟨fun _ => is_digit_of_mem_zeros, fun _ => is_digit_of_mem_digits⟩
  obtain ⟨total, hread⟩ : ∃ total, readDigits? digitValue?
      (zeros (2 - (digits exponent.natAbs).length) ++ digits exponent.natAbs) 0 0 =
        some (exponent.natAbs, total, []) := by
    have hall := read_digits_of_digits hdigits [] 0 0
    rw [List.append_nil, value_of_zeros_append, value_of_digits] at hall
    refine ⟨_, hall.trans (read_digits_suffix (.inl rfl) ?_)⟩
    rw [Nat.zero_add, List.length_append]
    exact Nat.add_pos_right _ Nat.length_toDigits_pos
  unfold exponentChars readExponent?
  dsimp only
  rw [if_pos (.inl rfl)]
  split_ifs with hnegative
  · simp only [readSign, hread, signed, if_true]
    congr 1
    omega
  · simp only [readSign, hread, signed, Bool.false_eq_true, if_false]
    congr 1
    omega

/-! ## Positional notation -/

/-- The point stands in front of the digits, among them or behind them. -/
theorem point_cases (ds : List Char) (position : Int) :
    (∃ places : ℕ, position = -places) ∨
      (∃ front back, front ≠ [] ∧ back ≠ [] ∧ ds = front ++ back ∧ position = front.length) ∨
      ∃ more : ℕ, position = (ds.length + more : ℕ) := by
  obtain hle | hpos := le_or_gt position 0
  · exact .inl ⟨(-position).toNat, by omega⟩
  · obtain ⟨places, rfl⟩ := Int.eq_ofNat_of_zero_le hpos.le
    obtain hlt | hge := Nat.lt_or_ge places ds.length
    · have hlength : (ds.take places).length = places := List.length_take_of_le hlt.le
      refine .inr (.inl ⟨ds.take places, ds.drop places, List.ne_nil_of_length_pos (by omega), ?_,
        (List.take_append_drop places ds).symm, by rw [hlength]⟩)
      rw [Ne, List.drop_eq_nil_iff]
      omega
    · exact .inr (.inr ⟨places - ds.length, by omega⟩)

/-- In front of the digits, the point stands behind a zero. -/
theorem positional_front (ds : List Char) (places : ℕ) :
    positional ds (-places) = ['0'] ++ '.' :: (zeros places ++ ds) := by
  rw [positional, if_pos (by omega), neg_neg, Int.toNat_natCast]
  rfl

/-- Among the digits, the point parts them. -/
theorem positional_among {front back : List Char} (hfront : front ≠ []) (hback : back ≠ []) :
    positional (front ++ back) front.length = front ++ '.' :: back := by
  have hpos := List.length_pos_iff.mpr hfront
  rw [positional, if_neg (by omega), Int.toNat_natCast]
  simp [zeros, hback]

/-- Behind the digits, the point stands behind zeros and in front of one. -/
theorem positional_behind (hne : ds ≠ []) (more : ℕ) :
    positional ds (ds.length + more : ℕ) = ds ++ zeros more ++ '.' :: ['0'] := by
  have hpos := List.length_pos_iff.mpr hne
  rw [positional, if_neg (by omega), Int.toNat_natCast]
  simp [zeros]

/-! ## Numbers -/

section Written

variable (hds : ∀ c ∈ ds, c.isDigit = true) (hne : ds ≠ []) (position : Int)
include hds hne

/-- Digits in positional notation are read with the value that their position gives them. -/
theorem read_positional : ∃ coefficient exponent,
    readUnsigned? (positional ds position) = some (coefficient, exponent) ∧
      (exponent = position - ds.length ∨ exponent = -1) ∧
      (coefficient : ℚ) * 10 ^ exponent =
        Nat.ofDigitChars 10 ds 0 * 10 ^ (position - ds.length) := by
  have hzero : ∀ c ∈ ['0'], c.isDigit = true := List.forall_mem_singleton.mpr rfl
  obtain ⟨places, rfl⟩ | ⟨front, back, hfront, hback, rfl, rfl⟩ | ⟨more, rfl⟩ :=
    point_cases ds position
  · have hfraction : ∀ c ∈ zeros places ++ ds, c.isDigit = true :=
      List.forall_mem_append.mpr ⟨fun _ => is_digit_of_mem_zeros, hds⟩
    have hvalue : Nat.ofDigitChars 10 (['0'] ++ (zeros places ++ ds)) 0 =
        Nat.ofDigitChars 10 ds 0 := value_of_zeros_append (places + 1) ds
    have hexponent : -((zeros places ++ ds).length : ℤ) = -places - ds.length := by
      rw [List.length_append, zeros, List.length_replicate]
      omega
    rw [positional_front, read_unsigned_places hzero (List.cons_ne_nil _ _) hfraction
      (List.append_ne_nil_of_right_ne_nil _ hne), hvalue, hexponent]
    exact ⟨_, _, rfl, .inl rfl, rfl⟩
  · obtain ⟨hwhole, hfraction⟩ := List.forall_mem_append.mp hds
    have hexponent : -(back.length : ℤ) = front.length - (front ++ back).length := by
      rw [List.length_append]
      omega
    rw [positional_among hfront hback, read_unsigned_places hwhole hfront hfraction hback,
      hexponent]
    exact ⟨_, _, rfl, .inl rfl, rfl⟩
  · have hwhole : ∀ c ∈ ds ++ zeros more, c.isDigit = true :=
      List.forall_mem_append.mpr ⟨hds, fun _ => is_digit_of_mem_zeros⟩
    have hvalue : Nat.ofDigitChars 10 (ds ++ zeros more ++ ['0']) 0 =
        10 ^ (more + 1) * Nat.ofDigitChars 10 ds 0 := by
      have hzeros : zeros more ++ ['0'] = List.replicate (more + 1) '0' :=
        List.replicate_succ'.symm
      rw [List.append_assoc, hzeros, Nat.ofDigitChars_append, Nat.ofDigitChars_replicate_zero]
    have hplaces : ((ds.length + more : ℕ) : ℤ) - ds.length = more := by omega
    have htenth : (10 : ℚ) ^ (-(['0'].length : ℤ)) = 1 / 10 := by norm_num
    rw [positional_behind hne, read_unsigned_places hwhole (List.append_ne_nil_of_left_ne_nil hne _)
      hzero (List.cons_ne_nil _ _), hvalue, hplaces]
    refine ⟨_, _, rfl, .inr rfl, ?_⟩
    rw [htenth, zpow_natCast, Nat.cast_mul, Nat.cast_pow, Nat.cast_ofNat, pow_succ]
    ring

/-- Digits in scientific notation are read with the value that their position gives them. -/
theorem read_scientific : readUnsigned? (scientific ds position) =
    some (Nat.ofDigitChars 10 ds 0, position - ds.length) := by
  have hsuffix : IsSuffix (exponentChars (position - 1)) := .inr ⟨_, rfl⟩
  have hexponent := read_exponent_chars (position - 1)
  obtain ⟨first, rest, rfl⟩ := List.exists_cons_of_ne_nil hne
  obtain ⟨hfirst, hrest⟩ := List.forall_mem_cons.mp hds
  cases rest with
  | nil => exact read_unsigned_whole hds hne hsuffix hexponent
  | cons second rest =>
      have hread := read_unsigned_point (List.forall_mem_singleton.mpr hfirst)
        (List.cons_ne_nil first []) hrest (List.cons_ne_nil second rest) hsuffix hexponent
      rwa [sub_sub, add_comm (1 : ℤ), ← Nat.cast_succ] at hread

end Written

/-! ## Numerals -/

/-- A character of a written number. -/
def IsNumeral (c : Char) : Prop :=
  c.isDigit = true ∨ c ∈ ['.', 'e', '+', '-']

/-- No character of a written number is padding or groups digits. -/
theorem IsNumeral.inner (h : IsNumeral c) : isBlank c = false ∧ (c != '_') = true := by
  obtain h | h := h
  · have hrange : 48 ≤ c.toNat ∧ c.toNat ≤ 57 := by
      simpa [Char.isDigit, UInt32.le_iff_toNat_le] using h
    constructor
    · simp only [isBlank, isWhiteSpace, Bool.or_eq_false_iff, Bool.and_eq_false_iff,
        decide_eq_false_iff_not, beq_eq_false_iff_ne]
      omega
    · rw [bne_iff_ne]
      rintro rfl
      cases h
  · fin_cases h <;> exact ⟨rfl, rfl⟩

/-- A written number behind its sign: it begins with a digit. -/
structure IsBody (cs : List Char) : Prop where
  numeral : ∀ c ∈ cs, IsNumeral c
  front : ∃ first rest, cs = first :: rest ∧ first.isDigit = true

/-- A numeral without a sign has none. -/
theorem IsBody.read_sign (h : IsBody cs) : readSign cs = (false, cs) := by
  obtain ⟨first, rest, rfl, hdigit⟩ := h.front
  unfold readSign
  split
  · rename_i hminus
    cases hminus
    cases hdigit
  · rename_i hplus
    cases hplus
    cases hdigit
  · rfl

/-- Without padding there is nothing to strip. -/
theorem strip_eq_self {drop : Char → Bool} (h : ∀ c ∈ cs, drop c = false) : strip drop cs = cs := by
  have hkeep {ds : List Char} (hds : ∀ c ∈ ds, drop c = false) : ds.dropWhile drop = ds := by
    cases ds with
    | nil => rfl
    | cons c rest => rw [List.dropWhile_cons, hds c List.mem_cons_self, if_neg Bool.false_ne_true]
  rw [strip, hkeep h, hkeep fun c hc => h c (List.mem_reverse.mp hc), List.reverse_reverse]

/-- No numeral is the name of an infinity or of no number. -/
theorem IsBody.not_named (h : IsBody cs) : lowerAscii cs ≠ "inf" ∧ lowerAscii cs ≠ "infinity" ∧
    (lowerAscii cs).startsWith "nan" = false := by
  obtain ⟨first, rest, rfl, hdigit⟩ := h.front
  have hchars : (lowerAscii (first :: rest)).toList = first :: rest.map Char.toLower := by
    have hlower : first.toLower = first := by
      have hrange : 48 ≤ first.val ∧ first.val ≤ 57 := by
        simpa [Char.isDigit] using hdigit
      unfold Char.toLower
      rw [dif_neg]
      rintro ⟨hle, -⟩
      exact absurd (UInt32.le_trans hle hrange.2) (by decide)
    rw [lowerAscii, String.toList_ofList, List.map_cons, hlower]
  have hnamed {name : Char} (hname : name.isDigit = false) {more : List Char} :
      first :: rest.map Char.toLower ≠ name :: more := by
    intro heq
    rw [(List.cons.inj heq).1, hname] at hdigit
    cases hdigit
  refine ⟨fun heq => ?_, fun heq => ?_, ?_⟩
  · rw [heq] at hchars
    exact hnamed (by decide) hchars.symm
  · rw [heq] at hchars
    exact hnamed (by decide) hchars.symm
  · rw [String.startsWith_string_eq_false_iff, hchars]
    rintro ⟨more, hmore⟩
    exact hnamed (by decide) hmore.symm

/-- A written number is read as the numeral behind its sign, unless that is past the range of
decimals. -/
theorem reading_of_unsigned {body : List Char} {coefficient : Nat} (negative : Bool)
    (hbody : IsBody body) (hread : readUnsigned? body = some (coefficient, exponent)) :
    reading? (String.ofList ((if negative then ['-'] else []) ++ body)) =
      if isWithinRange coefficient exponent then some (.number ⟨negative, coefficient, exponent⟩)
      else none := by
  have hinner : ∀ c ∈ (if negative then ['-'] else []) ++ body,
      isBlank c = false ∧ (c != '_') = true := by
    refine List.forall_mem_append.mpr ⟨fun c hc => ?_, fun c hc => (hbody.numeral c hc).inner⟩
    cases negative with
    | false => cases hc
    | true => exact List.mem_singleton.mp hc ▸ ⟨rfl, rfl⟩
  have hsign : readSign ((if negative then ['-'] else []) ++ body) = (negative, body) := by
    cases negative with
    | false => exact hbody.read_sign
    | true => rfl
  obtain ⟨hinf, hinfinity, hnan⟩ := hbody.not_named
  unfold reading?
  rw [String.toList_ofList, strip_eq_self fun c hc => (hinner c hc).1,
    List.filter_eq_self.mpr fun c hc => (hinner c hc).2, hsign]
  dsimp only
  rw [if_neg (not_or.mpr ⟨hinf, hinfinity⟩), hnan, if_neg Bool.false_ne_true, hread]
  rfl

section Bodies

variable (hds : ∀ c ∈ ds, c.isDigit = true) (hne : ds ≠ []) (position : Int)
include hds hne

/-- Digits begin with a digit. -/
theorem body_of_digits : IsBody ds := by
  obtain ⟨first, rest, rfl⟩ := List.exists_cons_of_ne_nil hne
  exact ⟨fun c hc => .inl (hds c hc), first, rest, rfl, hds first List.mem_cons_self⟩

/-- Positional notation begins with a digit. -/
theorem body_of_positional : IsBody (positional ds position) := by
  have hzeros (count : Nat) : ∀ c ∈ zeros count, c.isDigit = true := fun _ => is_digit_of_mem_zeros
  have hbody {whole fraction : List Char} (hwhole : ∀ c ∈ whole, c.isDigit = true)
      (hne : whole ≠ []) (hfraction : ∀ c ∈ fraction, c.isDigit = true) :
      IsBody (whole ++ '.' :: fraction) := by
    obtain ⟨first, rest, rfl⟩ := List.exists_cons_of_ne_nil hne
    refine ⟨List.forall_mem_append.mpr ⟨fun c hc => .inl (hwhole c hc),
      List.forall_mem_cons.mpr ⟨.inr (by decide), fun c hc => .inl (hfraction c hc)⟩⟩,
      first, _, rfl, hwhole first List.mem_cons_self⟩
  obtain ⟨places, rfl⟩ | ⟨front, back, hfront, hback, rfl, rfl⟩ | ⟨more, rfl⟩ :=
    point_cases ds position
  · rw [positional_front]
    exact hbody (hzeros 1) (List.cons_ne_nil _ _) (List.forall_mem_append.mpr ⟨hzeros _, hds⟩)
  · obtain ⟨hwhole, hfraction⟩ := List.forall_mem_append.mp hds
    rw [positional_among hfront hback]
    exact hbody hwhole hfront hfraction
  · rw [positional_behind hne]
    exact hbody (List.forall_mem_append.mpr ⟨hds, hzeros _⟩)
      (List.append_ne_nil_of_left_ne_nil hne _) (hzeros 1)

/-- Scientific notation begins with a digit. -/
theorem body_of_scientific : IsBody (scientific ds position) := by
  have hexponent : ∀ c ∈ exponentChars (position - 1), IsNumeral c := by
    refine List.forall_mem_cons.mpr ⟨.inr (by decide), List.forall_mem_cons.mpr ⟨.inr ?_, ?_⟩⟩
    · split_ifs <;> decide
    · exact List.forall_mem_append.mpr ⟨fun _ hc => .inl (is_digit_of_mem_zeros hc),
        fun _ hc => .inl (is_digit_of_mem_digits hc)⟩
  obtain ⟨first, rest, rfl⟩ := List.exists_cons_of_ne_nil hne
  obtain ⟨hfirst, hrest⟩ := List.forall_mem_cons.mp hds
  refine ⟨List.forall_mem_append.mpr ⟨?_, hexponent⟩, ?_⟩
  · cases rest with
    | nil => exact List.forall_mem_singleton.mpr (.inl hfirst)
    | cons second rest =>
        exact List.forall_mem_cons.mpr ⟨.inl hfirst, List.forall_mem_cons.mpr
          ⟨.inr (by decide), fun c hc => .inl (hrest c hc)⟩⟩
  · cases rest with
    | nil => exact ⟨first, _, rfl, hfirst⟩
    | cons second rest => exact ⟨first, _, rfl, hfirst⟩

end Bodies

/-- A decimal is written with its sign in front of a numeral of its magnitude, with its exponent or
with one place behind the point. -/
theorem chars_eq (d : Decimal) : ∃ body, IsBody body ∧
    d.chars = (if d.negative then ['-'] else []) ++ body ∧
    ∃ coefficient exponent, readUnsigned? body = some (coefficient, exponent) ∧
      (exponent = d.exponent ∨ exponent = -1) ∧
      (coefficient : ℚ) * 10 ^ exponent = d.coefficient * 10 ^ d.exponent := by
  have hdigits : ∀ c ∈ digits d.coefficient, c.isDigit = true := fun _ => is_digit_of_mem_digits
  have hne : digits d.coefficient ≠ [] := Nat.toDigits_ne_nil
  have hposition : d.exponent + (digits d.coefficient).length - (digits d.coefficient).length =
      d.exponent := add_sub_cancel_right _ _
  unfold chars
  dsimp only
  generalize (if d.negative then ['-'] else []) = sign
  split_ifs with hzero hplain
  · refine ⟨['0', '.', '0'], ⟨fun c hc => ?_, '0', _, rfl, rfl⟩, rfl, 0, -1, rfl, .inr rfl, ?_⟩
    · fin_cases hc <;> first | exact .inl rfl | exact .inr (by decide)
    · rw [hzero, Nat.cast_zero, zero_mul, zero_mul]
  · have hread := read_positional hdigits hne (d.exponent + (digits d.coefficient).length)
    rw [value_of_digits, hposition] at hread
    exact ⟨_, body_of_positional hdigits hne _, rfl, hread⟩
  · have hread := read_scientific hdigits hne (d.exponent + (digits d.coefficient).length)
    rw [value_of_digits, hposition] at hread
    exact ⟨_, body_of_scientific hdigits hne _, rfl, _, _, hread, .inl rfl, rfl⟩

/-! ## Integers and floating-point numbers -/

/-- The text of an integer is read as its exact decimal, unless it has too many digits. -/
theorem reading_int (n : Int) : reading? (intText n) =
    if isWithinRange n.natAbs 0 then some (.number (ofInt n)) else none := by
  have hdigits : ∀ c ∈ digits n.natAbs, c.isDigit = true := fun _ => is_digit_of_mem_digits
  have hne : digits n.natAbs ≠ [] := Nat.toDigits_ne_nil
  have hchars : intChars n = (if decide (n < 0) then ['-'] else []) ++ digits n.natAbs := by
    unfold intChars
    by_cases hnegative : n < 0 <;> simp [hnegative]
  have hread := read_unsigned_whole hdigits hne (.inl rfl) (rfl : readExponent? [] = some 0)
  rw [List.append_nil, value_of_digits] at hread
  rw [intText, hchars, reading_of_unsigned _ (body_of_digits hdigits hne) hread]
  rfl

/-- Decimals with a small exponent and a value that is not large are within the range. -/
theorem is_within_range_of_value {coefficient : Nat} (hexponent : exponent.natAbs ≤ 500)
    (hvalue : (coefficient : ℚ) * 10 ^ exponent ≤ 10 ^ 734) :
    isWithinRange coefficient exponent = true := by
  have hsmall : (coefficient : ℚ) < 10 ^ 1235 := by
    have hpower : (10 : ℚ) ^ (-exponent) ≤ 10 ^ (500 : ℤ) :=
      zpow_le_zpow_right₀ (by norm_num) (by omega)
    calc (coefficient : ℚ)
      _ = coefficient * 10 ^ exponent * 10 ^ (-exponent) := by
        rw [mul_assoc, ← zpow_add₀ (by norm_num), add_neg_cancel, zpow_zero, mul_one]
      _ ≤ 10 ^ 734 * 10 ^ (500 : ℤ) := by gcongr
      _ < 10 ^ 1235 := by
        rw [zpow_ofNat, ← pow_add]
        exact pow_lt_pow_right₀ (by norm_num) (by decide)
  have hdigits : digitCount coefficient ≤ 1235 :=
    (digit_count_le_iff (by decide)).mpr (by exact_mod_cast hsmall)
  rw [isWithinRange, Bool.and_eq_true, decide_eq_true_eq, decide_eq_true_eq]
  omega

/-- The text of a finite floating-point number is read, with the sign and the value of its shortest
decimal. -/
theorem reading_finite (negative : Bool) (rank : Fin Binary64.rankLimit) :
    ∃ d, reading? (Binary64.finite negative rank).text = some (.number d) ∧
      d.negative = (shortest negative rank).negative ∧
      d.value = (shortest negative rank).value := by
  obtain ⟨body, hbody, hchars, coefficient, exponent, hread, hexponent, hvalue⟩ :=
    chars_eq (shortest negative rank)
  obtain ⟨hsmall, hlimit⟩ := shortest_range negative rank
  rw [← hvalue] at hlimit
  have hwithin : isWithinRange coefficient exponent = true :=
    is_within_range_of_value (by omega) hlimit
  refine ⟨⟨(shortest negative rank).negative, coefficient, exponent⟩, ?_, rfl, ?_⟩
  · rw [Binary64.text, hchars, reading_of_unsigned _ hbody hread, if_pos hwithin]
  · rw [value_eq, value_eq]
    simp only [hvalue]

end SparkLog.Decimal
