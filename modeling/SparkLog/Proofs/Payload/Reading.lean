import Mathlib.Data.List.TakeDrop
import Mathlib.Data.List.TakeWhile
import SparkLog.Payload.Reader

/-!
# What a reader of payloads has read

A value that is read is a text, a list, an object or an atom (`value_eq_ok`), and the items of a
list and the fields of an object are read one by one (`elements_eq_ok`, `members_eq_ok`). No part
of the reader puts characters back: what is left is the end of the text that was given
(`value_suffix`), and in front of it stands the mark that closes a list or an object.
-/

namespace SparkLog.Payload

namespace Reader

/-! ## Nothing is put back -/

theorem skip_suffix (cs : List Char) : skip cs <:+ cs :=
  List.dropWhile_suffix isSpace

/-- A mark behind space stands in the text, with what follows it. -/
theorem suffix_of_skip {cs others : List Char} {c : Char} (h : skip cs = c :: others) :
    c :: others <:+ cs :=
  h ▸ skip_suffix cs

/-- What follows a mark behind space is less. -/
theorem length_lt_of_skip {cs others : List Char} {c : Char} (h : skip cs = c :: others) :
    others.length < cs.length :=
  (suffix_of_skip h).length_le

theorem digit_run_suffix (cs : List Char) : (digitRun cs).2 <:+ cs := by
  rw [digitRun, List.span_eq_takeWhile_dropWhile]
  exact List.dropWhile_suffix _

theorem minus_suffix (cs : List Char) : (minus cs).2 <:+ cs := by
  unfold minus
  split
  · exact List.suffix_cons _ _
  · exact List.suffix_rfl

theorem whole_digits_suffix (cs : List Char) : (wholeDigits cs).2 <:+ cs := by
  unfold wholeDigits
  split
  · exact List.suffix_cons _ _
  · exact digit_run_suffix cs

theorem fraction_suffix (cs : List Char) : (fraction cs).2 <:+ cs := by
  fun_cases fraction cs with
  | case1 | case3 => exact List.suffix_rfl
  | case2 rest => exact (digit_run_suffix rest).trans (List.suffix_cons _ _)

theorem read_sign_suffix (cs : List Char) : (Decimal.readSign cs).2 <:+ cs := by
  unfold Decimal.readSign
  split
  · exact List.suffix_cons _ _
  · exact List.suffix_cons _ _
  · exact List.suffix_rfl

theorem exponent_suffix {cs rest : List Char} {e : Int} (h : exponent? cs = some (e, rest)) :
    rest <:+ cs := by
  cases cs with
  | nil => cases h
  | cons mark behind =>
      simp only [exponent?] at h
      split at h
      · split at h
        · cases h
        · cases h
          have hsign := (read_sign_suffix behind).trans (List.suffix_cons mark behind)
          exact (digit_run_suffix _).trans hsign
      · cases h

/-- A number is an integer or a floating-point number, and what is behind it stays. -/
theorem number_suffix {cs rest : List Char} {payload : Payload}
    (h : number cs = .ok (payload, rest)) :
    rest <:+ cs ∧ ((∃ n, payload = .int n) ∨ ∃ x, payload = .float x) := by
  have hread : (fraction (wholeDigits (minus cs).2).2).2 <:+ cs :=
    (fraction_suffix _).trans ((whole_digits_suffix _).trans (minus_suffix cs))
  simp only [number] at h
  split at h
  · cases h
  · cases hexp : exponent? (fraction (wholeDigits (minus cs).2).2).2 with
    | some read =>
      rw [hexp] at h
      cases h
      exact ⟨(exponent_suffix hexp).trans hread, .inr ⟨_, rfl⟩⟩
    | none =>
      simp only [hexp] at h
      split at h
      · split at h
        · cases h
        · cases h
          exact ⟨hread, .inl ⟨_, rfl⟩⟩
      · cases h
        exact ⟨hread, .inr ⟨_, rfl⟩⟩

/-- An atom has no parts, and what is behind it stays. -/
theorem atom_suffix {cs rest : List Char} {payload : Payload}
    (h : atom cs = .ok (payload, rest)) :
    rest <:+ cs ∧ (∀ items, payload ≠ .list items) ∧ ∀ fields, payload ≠ .object fields := by
  fun_cases atom cs with
  | case7 cs =>
      rw [atom] at h
      · obtain ⟨hrest, ⟨n, rfl⟩ | ⟨x, rfl⟩⟩ := number_suffix h
        · exact ⟨hrest, nofun, nofun⟩
        · exact ⟨hrest, nofun, nofun⟩
      all_goals assumption
  | _ =>
      cases h
      exact ⟨by simp [List.suffix_cons_iff], nofun, nofun⟩

theorem text_body_suffix {start read cs rest : List Char} {text : String}
    (h : textBody start read cs = .ok (text, rest)) : rest <:+ cs := by
  fun_induction textBody start read cs with
  | case1 =>
      cases h
      exact List.suffix_cons _ _
  | case4 | case5 | case6 | case8 | case10 | case14 =>
      rename_i ih
      refine (ih h).trans ?_
      simp [List.suffix_cons_iff]
  | _ => cases h

/-! ## Integers past the limit -/

/-- A run of digits up to the end of the text, with no zero in front, is no integer that is read if
there are more of them than the limit. -/
theorem number_past_limit {cs : List Char} (hdigits : ∀ c ∈ cs, ('0' ≤ c && c ≤ '9') = true)
    (hzero : cs.head? ≠ some '0') (hlimit : Decimal.digitLimit < cs.length) :
    number cs = .error (.digits cs.length) := by
  have hrun : digitRun cs = (cs, []) := by
    rw [digitRun, List.span_eq_takeWhile_dropWhile, List.takeWhile_eq_self_iff.mpr hdigits,
      List.dropWhile_eq_nil_iff.mpr hdigits]
  have hminus : minus cs = (false, cs) := by
    unfold minus
    split
    · exact absurd (hdigits '-' List.mem_cons_self) (by decide)
    · rfl
  have hwhole : wholeDigits cs = (cs, []) := by
    unfold wholeDigits
    split
    · exact absurd rfl hzero
    · exact hrun
  have hfull : cs.isEmpty = false :=
    List.isEmpty_eq_false_iff.mpr (List.ne_nil_of_length_pos (Nat.zero_lt_of_lt hlimit))
  simp [number, hminus, hwhole, fraction, exponent?, hlimit, hfull]

/-! ## The parts of a value -/

variable {fuel depth : Nat} {cs rest : List Char} {payload : Payload}

/-- Items are read if the next one is, and behind it the list ends or more items are read. -/
theorem elements_eq_ok {read : List Payload} :
    elements (fuel + 1) depth read cs = .ok (payload, rest) ↔
      ∃ item behind, value fuel depth cs = .ok (item, behind) ∧
        (skip behind = ']' :: rest ∧ payload = .list (item :: read).reverse ∨
          ∃ next, skip behind = ',' :: next ∧
            elements fuel depth (item :: read) (skip next) = .ok (payload, rest)) := by
  constructor
  · intro h
    simp only [elements] at h
    split at h
    · cases h
    · rename_i item behind hitem
      refine ⟨item, behind, hitem, ?_⟩
      split at h
      · cases h
        exact .inl ⟨‹_›, rfl⟩
      · exact .inr ⟨_, ‹_›, h⟩
      · cases h
  · rintro ⟨item, behind, hitem, ⟨hend, rfl⟩ | ⟨next, hmore, hitems⟩⟩
    · simp only [elements, hitem, hend]
    · simp only [elements, hitem, hmore, hitems]

/-- Fields are read if the next one is, and behind it the object ends or more fields are read. -/
theorem members_eq_ok {read : Fields} :
    members (fuel + 1) depth read cs = .ok (payload, rest) ↔
      ∃ body key behind next item after, cs = '"' :: body ∧
        textBody cs [] body = .ok (key, behind) ∧ skip behind = ':' :: next ∧
        value fuel depth (skip next) = .ok (item, after) ∧
        (skip after = '\x7d' :: rest ∧ payload = .object (Fields.set read key item) ∨
          ∃ others, skip after = ',' :: others ∧
            members fuel depth (Fields.set read key item) (skip others) = .ok (payload, rest)) := by
  constructor
  · intro h
    unfold members at h
    split at h
    · rename_i body
      split at h
      · cases h
      · rename_i key behind hkey
        split at h
        · rename_i next hcolon
          split at h
          · cases h
          · rename_i item after hitem
            refine ⟨body, key, behind, next, item, after, rfl, hkey, hcolon, hitem, ?_⟩
            simp only at h
            split at h
            · cases h
              exact .inl ⟨‹_›, rfl⟩
            · exact .inr ⟨_, ‹_›, h⟩
            · cases h
        · cases h
    · cases h
  · rintro ⟨body, key, behind, next, item, after, rfl, hkey, hcolon, hitem, hrest⟩
    simp only [members, hkey, hcolon, hitem]
    obtain ⟨hend, rfl⟩ | ⟨others, hmore, hothers⟩ := hrest
    · simp only [hend]
    · simp only [hmore, hothers]

/-- The inside of a list or an object is read if one more of them may be open. -/
theorem nested_eq_ok {shape : Shape} {inside : Nat → Step Payload} :
    nested shape depth inside = .ok (payload, rest) ↔
      ∃ left, depth = left + 1 ∧ inside left = .ok (payload, rest) := by
  cases depth <;> simp [nested]

/-- A value is a text, a list, an object or an atom, as its first character says. -/
theorem value_eq_ok :
    value (fuel + 1) depth cs = .ok (payload, rest) ↔
      (∃ body text, cs = '"' :: body ∧ textBody cs [] body = .ok (text, rest) ∧
        payload = .text text) ∨
      (∃ body left, cs = '[' :: body ∧ depth = left + 1 ∧
        (skip body = ']' :: rest ∧ payload = .list [] ∨
          (∀ others, skip body ≠ ']' :: others) ∧
            elements fuel left [] (skip body) = .ok (payload, rest))) ∨
      (∃ body left, cs = '\x7b' :: body ∧ depth = left + 1 ∧
        (skip body = '\x7d' :: rest ∧ payload = .object [] ∨
          (∀ others, skip body ≠ '\x7d' :: others) ∧
            members fuel left [] (skip body) = .ok (payload, rest))) ∨
      (∀ body, cs ≠ '"' :: body) ∧ (∀ body, cs ≠ '[' :: body) ∧ (∀ body, cs ≠ '\x7b' :: body) ∧
        atom cs = .ok (payload, rest) := by
  constructor
  · intro h
    unfold value at h
    split at h
    · rename_i body
      cases htext : textBody ('"' :: body) [] body with
      | error fault =>
          rw [htext] at h
          cases h
      | ok found =>
          rw [htext] at h
          cases h
          exact .inl ⟨body, _, rfl, htext, rfl⟩
    · rename_i body
      obtain ⟨left, hleft, h⟩ := nested_eq_ok.mp h
      refine .inr (.inl ⟨body, left, rfl, hleft, ?_⟩)
      split at h
      · cases h
        exact .inl ⟨‹_›, rfl⟩
      · exact .inr ⟨‹_›, h⟩
    · rename_i body
      obtain ⟨left, hleft, h⟩ := nested_eq_ok.mp h
      refine .inr (.inr (.inl ⟨body, left, rfl, hleft, ?_⟩))
      split at h
      · cases h
        exact .inl ⟨‹_›, rfl⟩
      · exact .inr ⟨‹_›, h⟩
    · exact .inr (.inr (.inr ⟨‹_›, ‹_›, ‹_›, h⟩))
  · rintro (⟨body, text, rfl, htext, rfl⟩ | ⟨body, left, rfl, rfl, hbody⟩ |
      ⟨body, left, rfl, rfl, hbody⟩ | ⟨hquote, hbracket, hbrace, h⟩)
    · simp only [value, htext, Except.map]
    · rw [value, nested_eq_ok]
      refine ⟨left, rfl, ?_⟩
      obtain ⟨hend, rfl⟩ | ⟨hitems, h⟩ := hbody
      · simp only [hend]
      · rw [← h]
        split
        · exact absurd ‹_› (hitems _)
        · rfl
    · rw [value, nested_eq_ok]
      refine ⟨left, rfl, ?_⟩
      obtain ⟨hend, rfl⟩ | ⟨hfields, h⟩ := hbody
      · simp only [hend]
      · rw [← h]
        split
        · exact absurd ‹_› (hfields _)
        · rfl
    · rw [value]
      · exact h
      · exact hquote
      · exact hbracket
      · exact hbrace

/-- What is behind a value stays. A list that is read item by item is closed by its bracket, an
object that is read field by field by its brace. -/
theorem value_suffix (fuel : Nat) :
    (∀ {depth cs rest payload}, value fuel depth cs = .ok (payload, rest) → rest <:+ cs) ∧
      (∀ {depth read cs rest payload}, elements fuel depth read cs = .ok (payload, rest) →
        ']' :: rest <:+ cs ∧ ∃ items, payload = .list items) ∧
      ∀ {depth read cs rest payload}, members fuel depth read cs = .ok (payload, rest) →
        '\x7d' :: rest <:+ cs ∧ ∃ fields, payload = .object fields := by
  induction fuel with
  | zero => exact ⟨nofun, nofun, nofun⟩
  | succ fuel ih =>
      obtain ⟨hvalue, helements, hmembers⟩ := ih
      refine ⟨fun {depth cs rest payload} h => ?_, fun {depth read cs rest payload} h => ?_,
        fun {depth read cs rest payload} h => ?_⟩
      · obtain ⟨body, text, rfl, htext, -⟩ | ⟨body, left, rfl, -, ⟨hend, -⟩ | ⟨-, h⟩⟩ |
          ⟨body, left, rfl, -, ⟨hend, -⟩ | ⟨-, h⟩⟩ | ⟨-, -, -, h⟩ := value_eq_ok.mp h
        · exact (text_body_suffix htext).trans (List.suffix_cons _ _)
        · exact (List.suffix_cons _ _).trans ((suffix_of_skip hend).trans (List.suffix_cons _ _))
        · exact (List.suffix_cons _ _).trans
            ((helements h).1.trans ((skip_suffix body).trans (List.suffix_cons _ _)))
        · exact (List.suffix_cons _ _).trans ((suffix_of_skip hend).trans (List.suffix_cons _ _))
        · exact (List.suffix_cons _ _).trans
            ((hmembers h).1.trans ((skip_suffix body).trans (List.suffix_cons _ _)))
        · exact (atom_suffix h).1
      · obtain ⟨item, behind, hitem, ⟨hend, rfl⟩ | ⟨next, hmore, hitems⟩⟩ := elements_eq_ok.mp h
        · exact ⟨(suffix_of_skip hend).trans (hvalue hitem), _, rfl⟩
        · obtain ⟨hclosed, hlist⟩ := helements hitems
          have hnext : skip next <:+ cs :=
            (skip_suffix next).trans ((List.suffix_cons _ _).trans
              ((suffix_of_skip hmore).trans (hvalue hitem)))
          exact ⟨hclosed.trans hnext, hlist⟩
      · obtain ⟨body, key, behind, next, item, after, rfl, hkey, hcolon, hitem, hrest⟩ :=
          members_eq_ok.mp h
        have hbehind : ':' :: next <:+ '"' :: body :=
          (suffix_of_skip hcolon).trans ((text_body_suffix hkey).trans (List.suffix_cons _ _))
        have hafter : after <:+ '"' :: body :=
          (hvalue hitem).trans ((skip_suffix next).trans ((List.suffix_cons _ _).trans hbehind))
        obtain ⟨hend, rfl⟩ | ⟨others, hmore, hothers⟩ := hrest
        · exact ⟨(suffix_of_skip hend).trans hafter, _, rfl⟩
        · obtain ⟨hclosed, hobject⟩ := hmembers hothers
          have hnext : skip others <:+ '"' :: body :=
            (skip_suffix others).trans ((List.suffix_cons _ _).trans
              ((suffix_of_skip hmore).trans hafter))
          exact ⟨hclosed.trans hnext, hobject⟩

/-- A value that is read from an opening bracket on is a list, closed by a bracket. -/
theorem list_closed {body : List Char}
    (h : value (fuel + 1) depth ('[' :: body) = .ok (payload, rest)) : ']' :: rest <:+ body := by
  obtain ⟨_, _, hcs, -⟩ | ⟨_, _, hcs, -, ⟨hend, -⟩ | ⟨-, h⟩⟩ | ⟨_, _, hcs, -⟩ | ⟨-, hno, -⟩ :=
    value_eq_ok.mp h
  · cases hcs
  · obtain rfl := (List.cons.inj hcs).2
    exact suffix_of_skip hend
  · obtain rfl := (List.cons.inj hcs).2
    exact ((value_suffix fuel).2.1 h).1.trans (skip_suffix body)
  · cases hcs
  · exact absurd rfl (hno body)

/-- A value that is an object is closed by a brace. -/
theorem object_closed {fields : Fields}
    (h : value (fuel + 1) depth cs = .ok (.object fields, rest)) : '\x7d' :: rest <:+ cs := by
  obtain ⟨body, text, -, -, hpayload⟩ | ⟨body, left, -, -, ⟨-, hpayload⟩ | ⟨-, h⟩⟩ |
    ⟨body, left, rfl, -, ⟨hend, -⟩ | ⟨-, h⟩⟩ | ⟨-, -, -, h⟩ := value_eq_ok.mp h
  · cases hpayload
  · cases hpayload
  · obtain ⟨-, items, hpayload⟩ := (value_suffix fuel).2.1 h
    cases hpayload
  · exact (suffix_of_skip hend).trans (List.suffix_cons _ _)
  · exact ((value_suffix fuel).2.2 h).1.trans
      ((skip_suffix body).trans (List.suffix_cons _ _))
  · exact absurd rfl ((atom_suffix h).2.2 fields)

end Reader

open Reader in
/-- A document is read if it starts with no mark of its byte order, and holds one value with nothing
but space around it. -/
theorem read_eq_ok_iff {cs : List Char} {payload : Payload} :
    Payload.read cs = .ok payload ↔
      (∀ others, cs ≠ '\uFEFF' :: others) ∧
        ∃ rest, value (2 * cs.length + 1) depthLimit (skip cs) = .ok (payload, rest) ∧
          skip rest = [] := by
  have hdocument : Payload.read cs = .ok payload ↔ document cs = .ok payload := by
    unfold Payload.read
    split <;> simp [*]
  rw [hdocument]
  constructor
  · intro h
    unfold document at h
    split at h
    · cases h
    · rename_i hmark
      refine ⟨hmark, ?_⟩
      split at h
      · cases h
      · rename_i found rest hvalue
        split at h
        · rename_i hend
          obtain rfl := Except.ok.inj h
          exact ⟨rest, hvalue, hend⟩
        · cases h
  · rintro ⟨hmark, rest, hvalue, hend⟩
    unfold document
    split
    · exact absurd rfl (hmark _)
    · simp only [hvalue, hend]

end SparkLog.Payload
