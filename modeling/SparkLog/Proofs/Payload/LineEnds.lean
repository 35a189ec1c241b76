import SparkLog.Proofs.Payload.Reading
import SparkLog.Log.Lines

/-!
# Documents and line ends

A document may end its lines in any of the usual ways: if it is read, it is read as the same payload
with unified line ends (`read_unify_line_ends`). A line end can only stand between the parts of a
document, where it is skipped in every form; inside a text it is a fault. The text with unified line
ends may be shorter and is read with less fuel, so what is shown of each part is that it can be read
with any fuel that is past twice the length of its text (`value_unify`).
-/

namespace SparkLog

namespace Log

/-! ## Unified line ends -/

/-- A character that is no carriage return stays. -/
theorem unify_cons {c : Char} (hc : c ≠ '\r') (rest : List Char) :
    unifyLineEnds (c :: rest) = c :: unifyLineEnds rest := by
  simp [unifyLineEnds, hc]

/-- How a text and its unified line ends begin: a carriage return becomes a line feed, and any other
character stays. -/
theorem unify_head (cs : List Char) :
    cs = [] ∨
      (∃ rest others, cs = '\r' :: rest ∧ unifyLineEnds cs = '\n' :: others) ∨
      ∃ c rest, c ≠ '\r' ∧ cs = c :: rest ∧ unifyLineEnds cs = c :: unifyLineEnds rest := by
  fun_cases unifyLineEnds cs with
  | case1 rest => exact .inr (.inl ⟨_, _, rfl, rfl⟩)
  | case2 rest hne => exact .inr (.inl ⟨_, _, rfl, rfl⟩)
  | case3 c rest hcr hc => exact .inr (.inr ⟨c, rest, hc, rfl, rfl⟩)
  | case4 => exact .inl rfl

/-- Dropping characters, line feeds if and only if carriage returns, may come before unifying line
ends or after. -/
theorem drop_while_unify {p : Char → Bool} (hp : p '\n' = p '\r') (cs : List Char) :
    (unifyLineEnds cs).dropWhile p = unifyLineEnds (cs.dropWhile p) := by
  fun_induction unifyLineEnds cs with
  | case1 rest ih =>
      cases hr : p '\r' <;> rw [hr] at hp
      · simp [hp, hr, unifyLineEnds]
      · simp [hp, hr, ih]
  | case2 rest hne ih =>
      cases hr : p '\r' <;> rw [hr] at hp
      · simp only [List.dropWhile_cons, hp, hr, Bool.false_eq_true, if_false]
        rw [unifyLineEnds]
        exact hne
      · simp [hp, hr, ih]
  | case3 c rest hcr hc ih =>
      cases h : p c
      · simp only [List.dropWhile_cons, h, Bool.false_eq_true, if_false]
        rw [unifyLineEnds]
        · exact hcr
        · exact hc
      · simp [h, ih]
  | case4 => rfl

/-- Characters that are no line ends are taken alike from unified line ends. -/
theorem take_while_unify {p : Char → Bool} (hn : p '\n' = false) (hr : p '\r' = false)
    (cs : List Char) : (unifyLineEnds cs).takeWhile p = cs.takeWhile p := by
  fun_induction unifyLineEnds cs with
  | case1 rest ih => simp [hn, hr]
  | case2 rest hne ih => simp [hn, hr]
  | case3 c rest hcr hc ih => simp [List.takeWhile_cons, ih]
  | case4 => rfl

/-- A first character that is no line feed was the first one before. -/
theorem unify_eq_cons {cs rest : List Char} {c : Char} (hc : c ≠ '\n')
    (h : unifyLineEnds cs = c :: rest) :
    ∃ before, cs = c :: before ∧ unifyLineEnds before = rest := by
  fun_cases unifyLineEnds cs with
  | case1 before =>
      rw [unifyLineEnds] at h
      exact absurd (List.cons.inj h).1.symm hc
  | case2 before hne =>
      rw [unifyLineEnds] at h
      · exact absurd (List.cons.inj h).1.symm hc
      · exact hne
  | case3 first before hcr hfirst =>
      rw [unifyLineEnds] at h
      · obtain ⟨rfl, rfl⟩ := List.cons.inj h
        exact ⟨before, rfl, rfl⟩
      · exact hcr
      · exact hfirst
  | case4 => cases h

/-- Unified line ends are not longer. -/
theorem length_unify_le (cs : List Char) : (unifyLineEnds cs).length ≤ cs.length := by
  fun_induction unifyLineEnds cs <;> simp only [List.length_cons, List.length_nil] <;> omega

/-- Text has a first character with unified line ends too. -/
theorem unify_exists_cons (c : Char) (cs : List Char) :
    ∃ first others, unifyLineEnds (c :: cs) = first :: others := by
  obtain h | ⟨rest, others, -, hu⟩ | ⟨first, rest, -, -, hu⟩ := unify_head (c :: cs)
  · cases h
  · exact ⟨_, _, hu⟩
  · exact ⟨_, _, hu⟩

/-- A first character that is no line feed is not brought in. -/
theorem unify_ne_cons {cs : List Char} {c : Char} (hc : c ≠ '\n') (h : ∀ others, cs ≠ c :: others)
    (others : List Char) : unifyLineEnds cs ≠ c :: others := by
  intro hu
  obtain ⟨before, hbefore, -⟩ := unify_eq_cons hc hu
  exact h before hbefore

end Log

namespace Payload.Reader

open Log

variable {cs rest : List Char} {payload : Payload}

/-! ## Space -/

theorem skip_unify (cs : List Char) : skip (unifyLineEnds cs) = unifyLineEnds (skip cs) :=
  drop_while_unify rfl cs

/-- A mark behind space is found with unified line ends too. -/
theorem skip_unify_eq_cons {others : List Char} {c : Char} (hc : c ≠ '\r')
    (h : skip cs = c :: others) : skip (unifyLineEnds cs) = c :: unifyLineEnds others := by
  rw [skip_unify, h, unify_cons hc]

theorem length_unify_skip_le (cs : List Char) :
    (unifyLineEnds (skip cs)).length ≤ (unifyLineEnds cs).length := by
  rw [← skip_unify]
  exact (skip_suffix _).length_le

/-! ## Numbers -/

theorem digit_run_unify (cs : List Char) :
    digitRun (unifyLineEnds cs) = ((digitRun cs).1, unifyLineEnds (digitRun cs).2) := by
  simp only [digitRun, List.span_eq_takeWhile_dropWhile]
  rw [take_while_unify rfl rfl, drop_while_unify rfl]

theorem minus_unify (cs : List Char) :
    minus (unifyLineEnds cs) = ((minus cs).1, unifyLineEnds (minus cs).2) := by
  obtain rfl | ⟨rest, others, rfl, hu⟩ | ⟨c, rest, hc, rfl, hu⟩ := unify_head cs
  · rfl
  · simp [minus, hu]
  · rw [hu]
    by_cases hminus : c = '-' <;> simp [minus, hu, hminus]

theorem whole_digits_unify (cs : List Char) :
    wholeDigits (unifyLineEnds cs) = ((wholeDigits cs).1, unifyLineEnds (wholeDigits cs).2) := by
  have hrun := digit_run_unify cs
  obtain rfl | ⟨rest, others, rfl, hu⟩ | ⟨c, rest, hc, rfl, hu⟩ := unify_head cs
  · rfl
  · rw [hu] at hrun ⊢
    simp [wholeDigits, hrun]
  · rw [hu] at hrun ⊢
    by_cases hzero : c = '0'
    · simp [wholeDigits, hzero]
    · simp [wholeDigits, hzero, hrun]

theorem fraction_unify (cs : List Char) :
    fraction (unifyLineEnds cs) = ((fraction cs).1, unifyLineEnds (fraction cs).2) := by
  obtain rfl | ⟨rest, others, rfl, hu⟩ | ⟨c, rest, hc, rfl, hu⟩ := unify_head cs
  · rfl
  · simp [fraction, hu]
  · rw [hu]
    by_cases hpoint : c = '.'
    · subst hpoint
      simp only [fraction, digit_run_unify]
      split
      · exact congrArg (Prod.mk []) hu.symm
      · rfl
    · simp [fraction, hpoint, hu]

theorem read_sign_unify (cs : List Char) :
    Decimal.readSign (unifyLineEnds cs) =
      ((Decimal.readSign cs).1, unifyLineEnds (Decimal.readSign cs).2) := by
  obtain rfl | ⟨rest, others, rfl, hu⟩ | ⟨c, rest, hc, rfl, hu⟩ := unify_head cs
  · rfl
  · simp [Decimal.readSign, hu]
  · rw [hu]
    by_cases hminus : c = '-'
    · simp [Decimal.readSign, hminus]
    · by_cases hplus : c = '+' <;> simp [Decimal.readSign, hu, hminus, hplus]

theorem exponent_unify (cs : List Char) :
    exponent? (unifyLineEnds cs) = (exponent? cs).map fun (e, rest) => (e, unifyLineEnds rest) := by
  obtain rfl | ⟨rest, others, rfl, hu⟩ | ⟨c, rest, hc, rfl, hu⟩ := unify_head cs
  · rfl
  · simp [exponent?, hu]
  · rw [hu]
    simp only [exponent?, read_sign_unify, digit_run_unify]
    split
    · split <;> rfl
    · rfl

theorem number_unify {cs rest : List Char} {payload : Payload}
    (h : number cs = .ok (payload, rest)) :
    number (unifyLineEnds cs) = .ok (payload, unifyLineEnds rest) := by
  unfold number at h ⊢
  simp only [minus_unify, whole_digits_unify, fraction_unify, exponent_unify] at h ⊢
  split at h
  · cases h
  · rename_i hdigits
    rw [if_neg hdigits]
    cases hexp : exponent? (fraction (wholeDigits (minus cs).2).2).2 with
    | some read =>
      rw [hexp] at h
      cases h
      rfl
    | none =>
      rw [hexp] at h
      simp only [Option.map_none]
      simp only at h
      split at h
      · split at h
        · cases h
        · cases h
          simp [*]
      · cases h
        simp [*]

/-! ## Texts -/

/-- What may follow the first half of a pair: another unit, and more text. -/
def PairFollows (cs : List Char) : Prop :=
  ∃ e f g h after rest, cs = '\\' :: 'u' :: e :: f :: g :: h :: after :: rest

/-- A unit stands for itself if it is no first half of a pair, or nothing like a second half
follows. -/
theorem text_body_unit {start read : List Char} {a b c d after : Char} {unit : Nat}
    (hunit : hexUnit? a b c d = some unit)
    (hsingle : ¬(0xD800 ≤ unit ∧ unit < 0xDC00) ∨ ¬PairFollows (after :: rest)) :
    textBody start read ('\\' :: 'u' :: a :: b :: c :: d :: after :: rest) =
      textBody start (unitChar unit :: read) (after :: rest) := by
  by_cases hpair : PairFollows (after :: rest)
  · have hhigh := hsingle.resolve_right (not_not_intro hpair)
    obtain ⟨e, f, g, h, behind, more, he⟩ := hpair
    rw [he, textBody, hunit]
    simp only [if_neg hhigh]
  · rw [textBody]
    · simp only [hunit]
    · rintro e f g h behind more rfl rfl
      exact hpair ⟨_, _, _, _, _, _, rfl⟩

/-- A unit is written without line ends. -/
theorem unify_unit {a b c d : Char} {unit : Nat} (hunit : hexUnit? a b c d = some unit)
    (cs : List Char) :
    unifyLineEnds ('\\' :: 'u' :: a :: b :: c :: d :: cs) =
      '\\' :: 'u' :: a :: b :: c :: d :: unifyLineEnds cs := by
  have hdigit : Text.hexDigitValue? '\r' = none := by decide
  have hbackslash : '\\' ≠ '\r' := by decide
  have hu : 'u' ≠ '\r' := by decide
  have ha : a ≠ '\r' := by rintro rfl; simp [hexUnit?, hdigit] at hunit
  have hb : b ≠ '\r' := by rintro rfl; simp [hexUnit?, hdigit] at hunit
  have hc : c ≠ '\r' := by rintro rfl; simp [hexUnit?, hdigit] at hunit
  have hd : d ≠ '\r' := by rintro rfl; simp [hexUnit?, hdigit] at hunit
  rw [unify_cons hbackslash, unify_cons hu, unify_cons ha, unify_cons hb, unify_cons hc,
    unify_cons hd]

/-- Unifying line ends does not bring a unit and more text about. -/
theorem pair_follows_of_unify {cs : List Char} (h : PairFollows (unifyLineEnds cs)) :
    PairFollows cs := by
  obtain ⟨a, b, c, d, after, rest, h⟩ := h
  obtain ⟨behind, rfl, hbehind⟩ := unify_eq_cons (by decide) h
  obtain ⟨others, rfl, hothers⟩ := unify_eq_cons (by decide) hbehind
  have hlength := length_unify_le others
  rw [hothers] at hlength
  match others, hlength with
  | a :: b :: c :: d :: after :: rest, _ => exact ⟨a, b, c, d, after, rest, rfl⟩

/-- A text that is read has no line ends before its closing quote. -/
theorem text_body_unify {start read : List Char} {text : String}
    (h : textBody start read cs = .ok (text, rest)) (start' : List Char) :
    textBody start' read (unifyLineEnds cs) = .ok (text, unifyLineEnds rest) := by
  fun_induction textBody start read cs with
  | case1 read rest =>
      cases h
      rw [unify_cons (by decide), textBody]
  | case4 read a b c d e f g h' after rest' high hhigh hrange low hlow hlowrange pair ih =>
      -- Both halves of a pair.
      obtain ⟨first, others, hu⟩ := unify_exists_cons after rest'
      rw [unify_unit hhigh, unify_unit hlow, hu]
      simp only [textBody, hhigh, hrange, hlow, hlowrange, and_self, if_true]
      rw [← hu]
      exact ih h
  | case5 read a b c d e f g h' after rest' high hhigh hrange low hlow hlowrange ih =>
      -- A first half, and a unit that is no second half.
      have ih := ih h
      obtain ⟨first, others, hu⟩ := unify_exists_cons after rest'
      rw [unify_unit hlow, hu] at ih
      rw [unify_unit hhigh, unify_unit hlow, hu]
      simp only [textBody, hhigh, hrange, hlow, hlowrange, and_self, if_true, if_false]
      exact ih
  | case6 read a b c d e f g h' after rest' unit hunit hhigh ih =>
      have ih := ih h
      rw [unify_unit hunit]
      obtain ⟨first, others, hu⟩ :=
        unify_exists_cons '\\' ('u' :: e :: f :: g :: h' :: after :: rest')
      rw [hu] at ih ⊢
      rw [text_body_unit hunit (.inl hhigh)]
      exact ih
  | case8 read a b c d after rest' hsingle unit hunit ih =>
      -- A unit that no other unit follows, which may be half of a pair.
      have ih := ih h
      have hfollows : ¬PairFollows (unifyLineEnds (after :: rest')) := by
        intro hpair
        obtain ⟨e, f, g, h', behind, more, he⟩ := pair_follows_of_unify hpair
        obtain ⟨rfl, rfl⟩ := List.cons.inj he
        exact hsingle e f g h' behind more rfl rfl
      rw [unify_unit hunit]
      obtain ⟨first, others, hu⟩ := unify_exists_cons after rest'
      rw [hu] at ih hfollows ⊢
      rw [text_body_unit hunit (.inr hfollows)]
      exact ih
  | case10 read c rest' _ _ hu plain hplain ih =>
      have hc : c ≠ '\r' := by
        rintro rfl
        cases hplain
      rw [unify_cons (by decide), unify_cons hc, textBody]
      · simp only [hplain]
        exact ih h
      · rintro _ _ _ _ _ _ _ _ _ _ rfl
        exact absurd rfl hu
      · rintro _ _ _ _ _ _ rfl
        exact absurd rfl hu
      · exact hu
  | case14 read c rest' hquote _ _ _ hescape hslash hcontrol ih =>
      have hc : c ≠ '\r' := by
        rintro rfl
        exact hcontrol (by decide)
      have hs : c ≠ '\\' := by
        rintro rfl
        cases rest' with
        | nil => exact hslash rfl rfl
        | cons _ _ => exact hescape _ _ rfl rfl
      rw [unify_cons hc, textBody, if_neg hcontrol]
      · exact ih h
      all_goals simp_all
  | _ => cases h

/-! ## Values -/

/-- What is read as a number is read as an atom. -/
theorem atom_of_number (h : number cs = .ok (payload, rest)) : atom cs = .ok (payload, rest) := by
  fun_cases atom cs with
  | case7 => exact h
  | _ => cases h

theorem atom_unify (h : atom cs = .ok (payload, rest)) :
    atom (unifyLineEnds cs) = .ok (payload, unifyLineEnds rest) := by
  fun_cases atom cs with
  | case7 =>
      rw [atom] at h
      · exact atom_of_number (number_unify h)
      all_goals assumption
  | _ =>
      cases h
      simp only [unify_cons, ne_eq, Char.reduceEq, not_false_eq_true]
      rfl

/-- A value that this fuel reads is read alike with unified line ends, by any fuel past twice the
length of the text. -/
def ValueUnifies (fuel : Nat) : Prop :=
  ∀ ⦃depth cs rest payload fuel'⦄, value fuel depth cs = .ok (payload, rest) →
    2 * (unifyLineEnds cs).length < fuel' →
      value fuel' depth (unifyLineEnds cs) = .ok (payload, unifyLineEnds rest)

/-- The items of a list that this fuel reads are read alike with unified line ends. -/
def ElementsUnify (fuel : Nat) : Prop :=
  ∀ ⦃depth read cs rest payload fuel'⦄, elements fuel depth read cs = .ok (payload, rest) →
    2 * (unifyLineEnds cs).length + 1 < fuel' →
      elements fuel' depth read (unifyLineEnds cs) = .ok (payload, unifyLineEnds rest)

/-- The fields of an object that this fuel reads are read alike with unified line ends. -/
def MembersUnify (fuel : Nat) : Prop :=
  ∀ ⦃depth read cs rest payload fuel'⦄, members fuel depth read cs = .ok (payload, rest) →
    2 * (unifyLineEnds cs).length + 1 < fuel' →
      members fuel' depth read (unifyLineEnds cs) = .ok (payload, unifyLineEnds rest)

/-- A list or an object has spent its opening mark, which leaves fuel enough for its content. -/
theorem ValueUnifies.succ {fuel : Nat} (helements : ElementsUnify fuel)
    (hmembers : MembersUnify fuel) : ValueUnifies (fuel + 1) := by
  intro depth cs rest payload fuel' h hfuel
  obtain ⟨fuel', rfl⟩ := Nat.exists_eq_add_one_of_ne_zero (Nat.ne_zero_of_lt hfuel)
  rw [value_eq_ok]
  obtain ⟨body, text, rfl, htext, rfl⟩ | ⟨body, left, rfl, rfl, hbody⟩ |
    ⟨body, left, rfl, rfl, hbody⟩ | ⟨hquote, hbracket, hbrace, hatom⟩ := value_eq_ok.mp h
  · exact .inl ⟨unifyLineEnds body, text, unify_cons (by decide) body, text_body_unify htext _, rfl⟩
  · refine .inr (.inl ⟨unifyLineEnds body, left, unify_cons (by decide) body, rfl, ?_⟩)
    obtain ⟨hend, rfl⟩ | ⟨hitems, h⟩ := hbody
    · exact .inl ⟨skip_unify_eq_cons (by decide) hend, rfl⟩
    · rw [unify_cons (by decide), List.length_cons] at hfuel
      have hlength := length_unify_skip_le body
      rw [skip_unify]
      exact .inr ⟨unify_ne_cons (by decide) hitems, helements h (by omega)⟩
  · refine .inr (.inr (.inl ⟨unifyLineEnds body, left, unify_cons (by decide) body, rfl, ?_⟩))
    obtain ⟨hend, rfl⟩ | ⟨hfields, h⟩ := hbody
    · exact .inl ⟨skip_unify_eq_cons (by decide) hend, rfl⟩
    · rw [unify_cons (by decide), List.length_cons] at hfuel
      have hlength := length_unify_skip_le body
      rw [skip_unify]
      exact .inr ⟨unify_ne_cons (by decide) hfields, hmembers h (by omega)⟩
  · exact .inr (.inr (.inr ⟨unify_ne_cons (by decide) hquote, unify_ne_cons (by decide) hbracket,
      unify_ne_cons (by decide) hbrace, atom_unify hatom⟩))

/-- The comma behind an item, spaces aside, makes up for the fuel that the item takes. -/
theorem length_unify_skip_lt {fuel depth : Nat} {cs behind next : List Char} {item : Payload}
    (hread : value fuel depth cs = .ok (item, unifyLineEnds behind))
    (hcomma : skip (unifyLineEnds behind) = ',' :: unifyLineEnds next) :
    (unifyLineEnds (skip next)).length < cs.length :=
  calc
    _ ≤ (unifyLineEnds next).length := length_unify_skip_le next
    _ < (unifyLineEnds behind).length := length_lt_of_skip hcomma
    _ ≤ cs.length := ((value_suffix fuel).1 hread).length_le

theorem ElementsUnify.succ {fuel : Nat} (hvalue : ValueUnifies fuel)
    (helements : ElementsUnify fuel) : ElementsUnify (fuel + 1) := by
  intro depth read cs rest payload fuel' h hfuel
  obtain ⟨fuel', rfl⟩ := Nat.exists_eq_add_one_of_ne_zero (Nat.ne_zero_of_lt hfuel)
  rw [elements_eq_ok]
  obtain ⟨item, behind, hitem, hrest⟩ := elements_eq_ok.mp h
  have hread : value fuel' depth (unifyLineEnds cs) = .ok (item, unifyLineEnds behind) :=
    hvalue hitem (by omega)
  refine ⟨item, unifyLineEnds behind, hread, ?_⟩
  obtain ⟨hend, rfl⟩ | ⟨next, hmore, hitems⟩ := hrest
  · exact .inl ⟨skip_unify_eq_cons (by decide) hend, rfl⟩
  · have hcomma := skip_unify_eq_cons (by decide) hmore
    have hlength := length_unify_skip_lt hread hcomma
    refine .inr ⟨unifyLineEnds next, hcomma, ?_⟩
    rw [skip_unify]
    exact helements hitems (by omega)

theorem MembersUnify.succ {fuel : Nat} (hvalue : ValueUnifies fuel)
    (hmembers : MembersUnify fuel) : MembersUnify (fuel + 1) := by
  intro depth read cs rest payload fuel' h hfuel
  obtain ⟨fuel', rfl⟩ := Nat.exists_eq_add_one_of_ne_zero (Nat.ne_zero_of_lt hfuel)
  rw [members_eq_ok]
  obtain ⟨body, key, behind, next, item, after, rfl, hkey, hcolon, hitem, hrest⟩ :=
    members_eq_ok.mp h
  rw [unify_cons (by decide)] at hfuel ⊢
  rw [List.length_cons] at hfuel
  have hname := text_body_unify hkey ('"' :: unifyLineEnds body)
  have hmark := skip_unify_eq_cons (by decide) hcolon
  have hnext : (unifyLineEnds (skip next)).length ≤ (unifyLineEnds body).length :=
    calc
      _ ≤ (unifyLineEnds next).length := length_unify_skip_le next
      _ ≤ (unifyLineEnds behind).length := Nat.le_of_lt (length_lt_of_skip hmark)
      _ ≤ (unifyLineEnds body).length := (text_body_suffix hname).length_le
  have hread : value fuel' depth (unifyLineEnds (skip next)) = .ok (item, unifyLineEnds after) :=
    hvalue hitem (by omega)
  refine ⟨unifyLineEnds body, key, unifyLineEnds behind, unifyLineEnds next, item,
    unifyLineEnds after, rfl, hname, hmark, ?_, ?_⟩
  · rw [skip_unify]
    exact hread
  · obtain ⟨hend, rfl⟩ | ⟨others, hmore, hothers⟩ := hrest
    · exact .inl ⟨skip_unify_eq_cons (by decide) hend, rfl⟩
    · have hcomma := skip_unify_eq_cons (by decide) hmore
      have hlength := length_unify_skip_lt hread hcomma
      refine .inr ⟨unifyLineEnds others, hcomma, ?_⟩
      rw [skip_unify]
      exact hmembers hothers (by omega)

/-- Whatever is read is read alike with unified line ends. -/
theorem value_unify (fuel : Nat) :
    ValueUnifies fuel ∧ ElementsUnify fuel ∧ MembersUnify fuel := by
  induction fuel with
  | zero => exact ⟨nofun, nofun, nofun⟩
  | succ fuel ih =>
      obtain ⟨hvalue, helements, hmembers⟩ := ih
      exact ⟨.succ helements hmembers, .succ hvalue helements, .succ hvalue hmembers⟩

end Payload.Reader

open Payload.Reader in
/-- A document that is read is read as the same payload with unified line ends. -/
theorem Payload.read_unify_line_ends {cs : List Char} {payload : Payload}
    (h : Payload.read cs = .ok payload) :
    Payload.read (Log.unifyLineEnds cs) = .ok payload := by
  obtain ⟨hmark, rest, hvalue, hend⟩ := read_eq_ok_iff.mp h
  refine read_eq_ok_iff.mpr
    ⟨Log.unify_ne_cons (by decide) hmark, Log.unifyLineEnds rest, ?_, ?_⟩
  · have hlength := length_unify_skip_le cs
    rw [skip_unify, (value_unify _).1 hvalue (by omega)]
  · rw [skip_unify, hend]
    rfl

end SparkLog
