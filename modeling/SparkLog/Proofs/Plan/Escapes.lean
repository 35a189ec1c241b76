import Mathlib.Data.List.Basic
import SparkLog.Plan.Dot

/-!
# Escaped texts

An escaped text is read from left to right, a pair of a backslash and the character behind it at a
time (`unescape?`). The reader accepts the texts that are escaped, and no others
(`unescape_eq_some_iff`). Escaping is told character by character; replacing backslashes, then
quotes, then line breaks in the whole text comes to the same (`escape_eq_replaced`), because what a
replacement puts in is of characters that later ones leave alone. So escaping loses nothing
(`escape_lossless`).
-/

namespace SparkLog.Dot

/-- The character that a backslash and the character behind it stand for. -/
def pair? : Char → Option Char
  | '\\' => some '\\'
  | '"' => some '"'
  | 'n' => some '\n'
  | _ => none

/-- What an escaped text stands for. It is none with another pair, a backslash at the end, or a
quote or a line break that stands for itself. -/
def unescape? : List Char → Option (List Char)
  | [] => some []
  | ['\\'] => none
  | '\\' :: mark :: rest => do return (← pair? mark) :: (← unescape? rest)
  | '"' :: _ => none
  | '\n' :: _ => none
  | c :: rest => (unescape? rest).map (c :: ·)

/-- A text in which a word is put in place of a character, wherever that stands. -/
def replaced (c : Char) (word : List Char) (cs : List Char) : List Char :=
  cs.flatMap fun d => if d = c then word else [d]

/-! ## Reading back -/

/-- A text is escaped character by character. -/
theorem escape_cons (c : Char) (cs : List Char) :
    escapeChars (c :: cs) = escapeChar c ++ escapeChars cs :=
  List.flatMap_cons

/-- An escaped character is read as the character. -/
theorem unescape_escape_char (c : Char) (rest : List Char) :
    unescape? (escapeChar c ++ rest) = (unescape? rest).map (c :: ·) := by
  unfold escapeChar
  split
  · next hbackslash =>
      subst hbackslash
      cases h : unescape? rest <;> simp [unescape?, pair?, h]
  · split
    · next hquote =>
        subst hquote
        cases h : unescape? rest <;> simp [unescape?, pair?, h]
    · split
      · next hbreak =>
          subst hbreak
          cases h : unescape? rest <;> simp [unescape?, pair?, h]
      · rw [List.singleton_append, unescape?] <;> simp [*]

/-- A pair that stands for a character is the escaped character. -/
theorem escape_char_of_pair {mark c : Char} (h : pair? mark = some c) :
    escapeChar c = ['\\', mark] := by
  unfold pair? at h
  split at h
  · exact Option.some.inj h ▸ rfl
  · exact Option.some.inj h ▸ rfl
  · exact Option.some.inj h ▸ rfl
  · cases h

/-- What is read is the text that was escaped. -/
theorem eq_escape_of_unescape {raw text : List Char} (h : unescape? raw = some text) :
    raw = escapeChars text := by
  induction raw using unescape?.induct generalizing text with
  | case1 =>
      obtain rfl := Option.some.inj h
      rfl
  | case2 | case4 | case5 => cases h
  | case3 mark rest ih =>
      simp only [unescape?, Option.bind_eq_bind, Option.bind_eq_some_iff] at h
      obtain ⟨c, hpair, behind, hrest, htext⟩ := h
      obtain rfl := Option.some.inj htext
      rw [ih hrest, escape_cons, escape_char_of_pair hpair]
      rfl
  | case6 c rest hend hpair hquote hbreak ih =>
      have hread : unescape? (c :: rest) = (unescape? rest).map (c :: ·) := by
        rw [unescape?] <;> assumption
      rw [hread, Option.map_eq_some_iff] at h
      obtain ⟨behind, hrest, rfl⟩ := h
      -- A backslash would have begun a pair, or stood at the end.
      have hbackslash : c ≠ '\\' := by
        intro hc
        cases rest with
        | nil => exact hend hc rfl
        | cons mark rest => exact hpair mark rest hc rfl
      have hplain : escapeChar c = [c] := by
        rw [escapeChar, if_neg hbackslash, if_neg hquote, if_neg hbreak]
      rw [ih hrest, escape_cons, hplain]
      rfl

/-- The reader accepts escaped texts and no others. -/
theorem unescape_eq_some_iff {raw text : List Char} :
    unescape? raw = some text ↔ raw = escapeChars text := by
  refine ⟨eq_escape_of_unescape, ?_⟩
  rintro rfl
  induction text with
  | nil => rfl
  | cons c text ih =>
      rw [escape_cons, unescape_escape_char, ih]
      rfl

/-! ## Replacing -/

/-- Replacing backslashes, then quotes, then line breaks escapes a text. -/
theorem escape_eq_replaced (cs : List Char) :
    escapeChars cs =
      replaced '\n' ['\\', 'n'] (replaced '"' ['\\', '"'] (replaced '\\' ['\\', '\\'] cs)) := by
  have hchar (c : Char) : escapeChar c =
      replaced '\n' ['\\', 'n'] (replaced '"' ['\\', '"'] (replaced '\\' ['\\', '\\'] [c])) := by
    unfold escapeChar
    split
    · next hbackslash =>
        subst hbackslash
        rfl
    · next hbackslash =>
        split
        · next hquote =>
            subst hquote
            rfl
        · next hquote => simp [replaced, hbackslash, hquote]
  induction cs with
  | nil => rfl
  | cons c cs ih =>
      rw [escape_cons, hchar, ih]
      simp [replaced]

/-- Escaping loses nothing. An escaped text is read back as the text, by a reader that accepts no
other texts; it is what is left when backslashes, quotes and line breaks are replaced in turn;
different texts are escaped differently; and texts behind one another are escaped one by one. -/
theorem escape_lossless :
    (∀ raw text : String, unescape? raw.toList = some text.toList ↔ raw = escape text) ∧
      (∀ text : String, (escape text).toList =
        replaced '\n' ['\\', 'n'] (replaced '"' ['\\', '"']
          (replaced '\\' ['\\', '\\'] text.toList))) ∧
      Function.Injective escape ∧
      ∀ front behind : String, escape (front ++ behind) = escape front ++ escape behind := by
  have hread (raw text : String) : unescape? raw.toList = some text.toList ↔ raw = escape text := by
    rw [unescape_eq_some_iff, escape, ← String.toList_inj, String.toList_ofList]
  refine ⟨hread, fun text => ?_, fun text other hsame => ?_, fun front behind => ?_⟩
  · rw [escape, String.toList_ofList, escape_eq_replaced]
  · have htext := (hread _ text).mpr rfl
    rw [hsame, (hread _ other).mpr rfl] at htext
    exact (String.toList_inj.mp (Option.some.inj htext)).symm
  · rw [escape, String.toList_append, escapeChars, List.flatMap_append, String.ofList_append]
    rfl

end SparkLog.Dot
