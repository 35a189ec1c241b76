import Mathlib.Data.List.TakeWhile
import SparkLog.Proofs.Log.Containers
import SparkLog.Proofs.Text.Pieces

/-!
# Broken lines

A line of a log that is no document for its syntax loses only itself: a tolerant reader counts it as
left out and reads the other lines as if it were not there (`read_log_insert`). A line past the
limits of what is read, such as one with an integer of too many digits, stops the reader instead,
with what is in front of it read. Both take a text that is read line by line. A bracket in front of
the text makes it one list, so a broken line that begins with a bracket and comes first takes all
other lines with it, and counts nothing.
-/

namespace SparkLog

namespace Log

/-! ## Lines -/

/-- The lines of a text. What is behind the last line end is a line only if there is anything. -/
def lines (cs : List Char) : List (List Char) :=
  let pieces := Text.pieces '\n' (unifyLineEnds cs)
  if pieces.getLast? = some [] then pieces.dropLast else pieces

/-- The characters of a text that are not blank. -/
def content (cs : List Char) : List Char :=
  cs.filter (!Text.isBlank ·)

/-- There is nothing in a line. -/
def IsBlank (line : List Char) : Prop :=
  content line = []

/-- A line holds an object under a text, whatever its padding. -/
def IsEvent (line : List Char) : Prop :=
  ∃ fields name, Payload.read (Text.strip Text.isBlank line) = .ok (.object fields) ∧
    Fields.get? fields "Event" = some (.text name)

/-- A text without carriage returns has no other line ends than line feeds. -/
theorem unify_of_not_mem {cs : List Char} (h : '\r' ∉ cs) : unifyLineEnds cs = cs := by
  induction cs with
  | nil => rfl
  | cons c rest ih =>
      obtain ⟨hc, hrest⟩ := not_or.mp (h ∘ List.mem_cons.mpr)
      rw [unify_cons (Ne.symm hc), ih hrest]

theorem content_append (cs others : List Char) :
    content (cs ++ others) = content cs ++ content others :=
  List.filter_append ..

/-- Dropping blank characters in front drops no content. -/
theorem content_drop_while (cs : List Char) : content (cs.dropWhile Text.isBlank) = content cs := by
  induction cs with
  | nil => rfl
  | cons c rest ih => cases h : Text.isBlank c <;> simp_all [content]

theorem content_reverse (cs : List Char) : content cs.reverse = (content cs).reverse :=
  List.filter_reverse ..

/-- Padding has no content. -/
theorem content_strip (cs : List Char) : content (Text.strip Text.isBlank cs) = content cs := by
  rw [Text.strip, content_reverse, content_drop_while, content_reverse, content_drop_while,
    List.reverse_reverse]

/-- Nothing is left of a line without its padding exactly if it is blank. -/
theorem strip_eq_nil_iff {line : List Char} :
    Text.strip Text.isBlank line = [] ↔ IsBlank line := by
  constructor
  · intro h
    rw [IsBlank, ← content_strip, h]
    rfl
  · intro h
    have hblank : ∀ c ∈ line, Text.isBlank c = true := by
      simpa [IsBlank, content, List.filter_eq_nil_iff] using h
    rw [Text.strip, List.dropWhile_eq_nil_iff.mpr hblank]
    rfl

/-- A character that does not separate begins the first piece. -/
theorem pieces_cons {separator c : Char} (hc : c ≠ separator) (cs : List Char) :
    ∃ piece others, Text.pieces separator cs = piece :: others ∧
      Text.pieces separator (c :: cs) = (c :: piece) :: others := by
  have hpieces : ∃ piece others, Text.pieces separator cs = piece :: others := by
    fun_cases Text.pieces separator cs with
    | _ => exact ⟨_, _, rfl⟩
  obtain ⟨piece, others, h⟩ := hpieces
  refine ⟨piece, others, h, ?_⟩
  rw [Text.pieces, if_neg hc, h]

/-- A text that starts with content starts so without its padding. -/
theorem strip_cons {c : Char} (hc : Text.isBlank c = false) (rest : List Char) :
    ∃ others, Text.strip Text.isBlank (c :: rest) = c :: others := by
  have hprefix : Text.strip Text.isBlank (c :: rest) <+: c :: rest := by
    have hsuffix : (c :: rest).reverse.dropWhile Text.isBlank <:+ (c :: rest).reverse :=
      List.dropWhile_suffix Text.isBlank
    rw [Text.strip, List.dropWhile_cons_of_neg (by simp [hc])]
    simpa using hsuffix.reverse
  cases hstrip : Text.strip Text.isBlank (c :: rest) with
  | nil =>
      rw [strip_eq_nil_iff] at hstrip
      simp [IsBlank, content, hc] at hstrip
  | cons first others =>
      rw [hstrip] at hprefix
      obtain ⟨behind, hbehind⟩ := hprefix
      obtain ⟨rfl, -⟩ := List.cons.inj hbehind
      exact ⟨others, rfl⟩

/-- The pieces of a text have its content. -/
theorem flat_map_content_pieces {separator : Char} (h : Text.isBlank separator = true)
    (cs : List Char) : (Text.pieces separator cs).flatMap content = content cs := by
  induction cs with
  | nil => rfl
  | cons c rest ih =>
      by_cases hc : c = separator
      · rw [Text.pieces, if_pos hc, List.flatMap_cons, ih, hc]
        simp [content, h]
      · obtain ⟨piece, others, hrest, hpieces⟩ := pieces_cons hc rest
        rw [hpieces, List.flatMap_cons, ← List.singleton_append, content_append, List.append_assoc,
          ← List.flatMap_cons, ← hrest, ih, ← content_append, List.singleton_append]

/-- The lines of a text are its pieces, but for an empty one at the end. -/
theorem lines_cases (cs : List Char) :
    Text.pieces '\n' (unifyLineEnds cs) = lines cs ∨
      Text.pieces '\n' (unifyLineEnds cs) = lines cs ++ [[]] := by
  unfold lines
  simp only
  split
  · rename_i hlast
    exact .inr (List.dropLast_append_getLast? [] hlast).symm
  · exact .inl rfl

/-- The lines of a text have its content. -/
theorem flat_map_content_lines (cs : List Char) :
    (lines cs).flatMap content = content (unifyLineEnds cs) := by
  rw [← flat_map_content_pieces (by decide : Text.isBlank '\n' = true)]
  rcases lines_cases cs with h | h
  · rw [h]
  · rw [h, List.flatMap_append]
    exact (List.append_nil _).symm

/-- The lines that are not blank, without padding, are among the lines of a text. -/
theorem content_lines_eq (cs : List Char) :
    contentLines (unifyLineEnds cs) =
      ((lines cs).map (Text.strip Text.isBlank)).filter (!·.isEmpty) := by
  unfold contentLines
  rcases lines_cases cs with h | h
  · rw [h]
  · rw [h, List.map_append, List.filter_append]
    exact List.append_nil _

/-- A text starts with a character that is no line end exactly if its first line does. -/
theorem head_lines {cs : List Char} {c : Char} (hc : c ≠ '\n') :
    (lines cs).head?.bind List.head? = some c ↔ (unifyLineEnds cs).head? = some c := by
  have hpieces (us : List Char) :
      (Text.pieces '\n' us).head?.bind List.head? = some c ↔ us.head? = some c := by
    cases us with
    | nil => simp [Text.pieces]
    | cons first rest =>
        by_cases hfirst : first = '\n'
        · have hne : first ≠ c := fun h => hc (h.symm.trans hfirst)
          simp [Text.pieces, hfirst, Ne.symm hc]
        · obtain ⟨piece, others, -, hcons⟩ := pieces_cons hfirst rest
          simp [hcons]
  rw [← hpieces]
  rcases lines_cases cs with h | h
  · rw [h]
  · rw [h]
    cases lines cs <;> simp

/-! ## Closing marks -/

/-- What is skipped between the parts of a document is blank. -/
theorem content_eq_nil_of_skip {cs : List Char} (h : Payload.Reader.skip cs = []) :
    content cs = [] := by
  have hspace : ∀ c ∈ cs, Payload.Reader.isSpace c = true := List.dropWhile_eq_nil_iff.mp h
  apply List.filter_eq_nil_iff.mpr
  intro c hmem
  have hc := hspace c hmem
  simp only [Payload.Reader.isSpace, Bool.or_eq_true, beq_iff_eq] at hc
  rcases hc with ((rfl | rfl) | rfl) | rfl <;> decide

/-- A mark with nothing but space behind it is the last that a text has. -/
theorem last_content {cs rest : List Char} {c : Char} (h : c :: rest <:+ cs)
    (hc : Text.isBlank c = false) (hrest : Payload.Reader.skip rest = []) :
    (content cs).getLast? = some c := by
  obtain ⟨before, rfl⟩ := h
  have hmark : content (c :: rest) = [c] := by
    rw [← List.singleton_append, content_append, content_eq_nil_of_skip hrest]
    simp [content, hc]
  rw [content_append, hmark, List.getLast?_concat]

/-- A document that is a list in front of which nothing stands ends with its bracket. -/
theorem last_content_of_list {body : List Char} {payload : Payload}
    (h : Payload.read ('[' :: body) = .ok payload) :
    (content ('[' :: body)).getLast? = some ']' := by
  obtain ⟨-, rest, hvalue, hrest⟩ := Payload.read_eq_ok_iff.mp h
  have hclosed : ']' :: rest <:+ body := Payload.Reader.list_closed hvalue
  exact last_content (hclosed.trans (List.suffix_cons _ _)) (by decide) hrest

/-- A document that is an object ends with its brace. -/
theorem last_content_of_object {cs : List Char} {fields : Fields}
    (h : Payload.read cs = .ok (.object fields)) : (content cs).getLast? = some '\x7d' := by
  obtain ⟨-, rest, hvalue, hrest⟩ := Payload.read_eq_ok_iff.mp h
  have hclosed := (Payload.Reader.object_closed hvalue).trans (Payload.Reader.skip_suffix cs)
  exact last_content hclosed (by decide) hrest

/-- A line that is blank or holds an event starts with no bracket. -/
theorem head_ne_bracket {line : List Char} (h : IsBlank line ∨ IsEvent line) :
    line.head? ≠ some '[' := by
  intro hhead
  obtain ⟨rest, rfl⟩ := List.head?_eq_some_iff.mp hhead
  rcases h with hblank | ⟨fields, name, hread, -⟩
  · have hbracket : Text.isBlank '[' = false := by decide
    simp [IsBlank, content, hbracket] at hblank
  · obtain ⟨others, hstrip⟩ := strip_cons (by decide : Text.isBlank '[' = false) rest
    have hobject := last_content_of_object hread
    rw [hstrip] at hread hobject
    rw [last_content_of_list hread] at hobject
    exact absurd (Option.some.inj hobject) (by decide)

/-- A text of which every line is blank or holds an event ends with a brace, unless it is blank. -/
theorem last_content_of_lines {others : List (List Char)}
    (h : ∀ line ∈ others, IsBlank line ∨ IsEvent line) :
    (∀ line ∈ others, IsBlank line) ∨ (others.flatMap content).getLast? = some '\x7d' := by
  induction others with
  | nil => exact .inl nofun
  | cons line rest ih =>
      obtain ⟨hline, hrest⟩ := List.forall_mem_cons.mp h
      rw [List.flatMap_cons, List.getLast?_append]
      rcases ih hrest with hblank | hlast
      · have hnone : rest.flatMap content = [] := List.flatMap_eq_nil_iff.mpr hblank
        rcases hline with hline | ⟨fields, name, hread, -⟩
        · exact .inl (List.forall_mem_cons.mpr ⟨hline, hblank⟩)
        · have hobject := last_content_of_object hread
          rw [content_strip] at hobject
          rw [hnone, hobject]
          exact .inr rfl
      · rw [hlast]
        exact .inr rfl

/-- Lines of which each is blank or holds an event do not start with a bracket. -/
theorem head_ne_bracket_of_lines {others : List (List Char)}
    (h : ∀ other ∈ others, IsBlank other ∨ IsEvent other) :
    others.head?.bind List.head? ≠ some '[' := by
  cases others with
  | nil => exact nofun
  | cons other rest => exact head_ne_bracket (h other List.mem_cons_self)

/-- A bracket in front of events makes no document of them. -/
theorem no_document_of_bracket {text : String} {line : List Char} {after : List (List Char)}
    (htext : lines text.toList = line :: after) (hbracket : line.head? = some '[')
    (hafter : ∀ other ∈ after, IsBlank other ∨ IsEvent other)
    (hfull : ∃ other ∈ after, ¬ IsBlank other) (payload : Payload) :
    Payload.read (unifyLineEnds text.toList) ≠ .ok payload := by
  intro hpayload
  have hstart : (lines text.toList).head?.bind List.head? = some '[' := by
    rw [htext]
    exact hbracket
  obtain ⟨rest, hrest⟩ := List.head?_eq_some_iff.mp ((head_lines (by decide)).mp hstart)
  -- The list would end with its bracket, and the text ends with the brace of its last event.
  have hlast := flat_map_content_lines text.toList
  rw [hrest] at hpayload hlast
  have hclosed := last_content_of_list hpayload
  rw [← hlast, htext, List.flatMap_cons, List.getLast?_append] at hclosed
  rcases last_content_of_lines hafter with hblank | hbrace
  · obtain ⟨other, hmem, hother⟩ := hfull
    exact hother (hblank other hmem)
  · rw [hbrace] at hclosed
    exact absurd (Option.some.inj hclosed) (by decide)

end Log

/-! ## Reading -/

/-- What a reader counts for a record does not depend on a record that was left out before. -/
theorem read_record_left_out (strict : Bool) (counts : ReadCounts) (record : Payload) :
    readRecord strict counts.countRecord.countFailed record =
      ((readRecord strict counts record).1.countRecord.countFailed,
        (readRecord strict counts record).2) := by
  unfold readRecord
  cases namedRecord? record with
  | none => rfl
  | some named =>
      obtain ⟨fields, name⟩ := named
      cases name with
      | text text =>
          cases hevent : Event.ofFields text (normalize fields) <;>
            simp only [Scalar.ofPayload, hevent] <;> rfl
      | _ => rfl

/-- A tolerant reader does not stop at an object under a text. -/
theorem read_record_text {fields : Fields} {name : String}
    (hname : Fields.get? fields "Event" = some (.text name)) (counts : ReadCounts) :
    ∃ found, (readRecord false counts (.object fields)).2 = .ok found := by
  by_cases hempty : name = ""
  · simp [readRecord, namedRecord?, hname, hempty, Payload.isTruthy, leaveOut]
  · cases hevent : Event.ofFields name (normalize fields) <;>
      simp [readRecord, namedRecord?, hname, hempty, Payload.isTruthy, Scalar.ofPayload, hevent,
        leaveOut]

namespace LogRun

/-- A run that has left out one more record. -/
def leftOut (run : LogRun) : LogRun :=
  { run with counts := run.counts.countRecord.countFailed }

/-- A reader goes on with a record as if none had been left out before. -/
theorem record_left_out (run : LogRun) (strict : Bool) (record : Payload) :
    run.leftOut.record strict record = (run.record strict record).leftOut := by
  obtain ⟨counts, events, failure⟩ := run
  cases failure with
  | some failure => rfl
  | none =>
      simp only [LogRun.record, leftOut, read_record_left_out]
      cases (readRecord strict counts record).2 with
      | error failure => rfl
      | ok found => cases found <;> rfl

/-- A reader goes on with a line as if none had been left out before. -/
theorem line_left_out (run : LogRun) (strict : Bool) (cs : List Char) :
    run.leftOut.line strict cs = (run.line strict cs).leftOut := by
  cases hread : Payload.read cs with
  | ok record => rw [line_eq_record hread, line_eq_record hread, record_left_out]
  | error failure =>
      obtain ⟨counts, events, stopped⟩ := run
      cases stopped with
      | some cause => rfl
      | none =>
          simp only [LogRun.line, leftOut, hread]
          cases failure.isMalformed <;> cases strict <;> rfl

/-- Read the next line of a text with its padding, if it is not blank. -/
def paddedLine (strict : Bool) (run : LogRun) (cs : List Char) : LogRun :=
  if (Text.strip Text.isBlank cs).isEmpty then run
  else run.line strict (Text.strip Text.isBlank cs)

/-- A reader goes on with a padded line as if none had been left out before. -/
theorem padded_line_left_out (run : LogRun) (strict : Bool) (cs : List Char) :
    run.leftOut.paddedLine strict cs = (run.paddedLine strict cs).leftOut := by
  unfold paddedLine
  split
  · rfl
  · exact line_left_out run strict _

/-- A tolerant reader that has not stopped leaves out a line that is no document. A line past the
limits of what is read stops it. -/
theorem padded_line_of_error {run : LogRun} (hgoes : run.failure = none) {line : List Char}
    (hline : ¬ Log.IsBlank line) {failure : Failure}
    (hbroken : Payload.read (Text.strip Text.isBlank line) = .error failure) :
    run.paddedLine false line =
      if failure.isMalformed then run.leftOut else { run with failure := some failure } := by
  have hfull : ¬ (Text.strip Text.isBlank line).isEmpty = true := by
    rwa [List.isEmpty_iff, Log.strip_eq_nil_iff]
  rw [paddedLine, if_neg hfull]
  simp only [LogRun.line, hgoes, hbroken]
  split
  · rfl
  · rfl

/-- A reader that has stopped reads no more lines. -/
theorem fold_padded_of_stopped {run : LogRun} {failure : Failure} (h : run.failure = some failure)
    (strict : Bool) (others : List (List Char)) : others.foldl (paddedLine strict) run = run := by
  induction others with
  | nil => rfl
  | cons cs rest ih =>
      have hline : run.paddedLine strict cs = run := by
        unfold paddedLine LogRun.line
        rw [h]
        split <;> rfl
      rw [List.foldl_cons, hline, ih]

/-- A reader goes on with the lines of a text as if none had been left out before. -/
theorem fold_padded_left_out (run : LogRun) (strict : Bool) (others : List (List Char)) :
    others.foldl (paddedLine strict) run.leftOut =
      (others.foldl (paddedLine strict) run).leftOut := by
  induction others generalizing run with
  | nil => rfl
  | cons cs rest ih => rw [List.foldl_cons, List.foldl_cons, padded_line_left_out, ih]

/-- A tolerant reader does not stop at a line that is blank or holds an event. -/
theorem padded_line_goes {run : LogRun} (hgoes : run.failure = none) {line : List Char}
    (h : Log.IsBlank line ∨ Log.IsEvent line) : (run.paddedLine false line).failure = none := by
  unfold paddedLine
  split
  · exact hgoes
  · rename_i hfull
    rcases h with hblank | ⟨fields, name, hread, hname⟩
    · rw [Log.strip_eq_nil_iff.mpr hblank] at hfull
      exact absurd rfl hfull
    · obtain ⟨found, hfound⟩ := read_record_text hname run.counts
      rw [line_eq_record hread]
      simp only [LogRun.record, hgoes, hfound]
      cases found <;> exact hgoes

/-- A tolerant reader does not stop at lines that are blank or hold events. -/
theorem fold_padded_goes {run : LogRun} (hgoes : run.failure = none) {others : List (List Char)}
    (h : ∀ line ∈ others, Log.IsBlank line ∨ Log.IsEvent line) :
    (others.foldl (paddedLine false) run).failure = none := by
  induction others generalizing run with
  | nil => exact hgoes
  | cons line rest ih =>
      obtain ⟨hline, hrest⟩ := List.forall_mem_cons.mp h
      exact ih (padded_line_goes hgoes hline) hrest

end LogRun

/-- A text that starts with no bracket is read line by line. -/
theorem read_log_eq_fold {strict : Bool} {text : String}
    (h : (Log.lines text.toList).head?.bind List.head? ≠ some '[') :
    readLog strict text = (Log.lines text.toList).foldl (LogRun.paddedLine strict) {} := by
  have hlines : readLog strict text =
      (Log.contentLines (Log.unifyLineEnds text.toList)).foldl (LogRun.line strict) {} := by
    unfold readLog
    simp only
    split
    · rename_i rest hstart
      rw [Ne, Log.head_lines (by decide), hstart] at h
      exact absurd rfl h
    · rfl
  rw [hlines, Log.content_lines_eq, List.foldl_filter, List.foldl_map]
  congr 1
  funext run cs
  unfold LogRun.paddedLine
  cases (Text.strip Text.isBlank cs).isEmpty <;> rfl

/-- Nothing is read of a text that starts with a bracket and is no document, and nothing counted. -/
theorem read_log_of_no_list {text : String}
    (h : (Log.lines text.toList).head?.bind List.head? = some '[')
    (hbroken : ∀ payload, Payload.read (Log.unifyLineEnds text.toList) ≠ .ok payload) :
    (readLog false text).events = [] ∧ (readLog false text).counts = {} := by
  obtain ⟨rest, hstart⟩ := List.head?_eq_some_iff.mp ((Log.head_lines (by decide)).mp h)
  rw [hstart] at hbroken
  simp only [readLog, hstart, readList]
  cases hread : Payload.read ('[' :: rest) with
  | ok payload => exact absurd hread (hbroken payload)
  | error failure => exact ⟨rfl, rfl⟩

section Insertion

variable {text inserted : String} {before after : List (List Char)} {line : List Char}

/-- A line that cannot be read, put between the lines of a log at any place. If it is no document
for its syntax, a tolerant reader leaves it out and counts it, and reads the other lines as if it
were not there. If it is past the limits of what is read, the reader stops at it with the lines in
front read, and counts nothing for it. Only in front of all other lines it must not begin with a
bracket: it makes the text one list then, and unless the other lines are blank nothing is read of
that, and nothing is counted. -/
theorem read_log_insert (htext : Log.lines text.toList = before ++ after)
    (hinserted : Log.lines inserted.toList = before ++ line :: after)
    (hlines : ∀ other ∈ before ++ after, Log.IsBlank other ∨ Log.IsEvent other)
    (hline : ¬ Log.IsBlank line) {failure : Failure}
    (hbroken : Payload.read (Text.strip Text.isBlank line) = .error failure) :
    (readLog false text).failure = none ∧
      (¬ (before = [] ∧ line.head? = some '[') →
        (failure.isMalformed = true → readLog false inserted = (readLog false text).leftOut) ∧
        (failure.isMalformed = false → ∀ front : String, Log.lines front.toList = before →
          readLog false inserted = { readLog false front with failure := some failure })) ∧
      (before = [] → line.head? = some '[' → (∃ other ∈ after, ¬ Log.IsBlank other) →
        (readLog false inserted).events = [] ∧ (readLog false inserted).counts = {}) := by
  obtain ⟨hbefore, hafter⟩ := List.forall_mem_append.mp hlines
  have hread : readLog false text =
      after.foldl (LogRun.paddedLine false) (before.foldl (LogRun.paddedLine false) {}) := by
    rw [read_log_eq_fold (by rw [htext]; exact Log.head_ne_bracket_of_lines hlines), htext,
      List.foldl_append]
  have hgoes : (before.foldl (LogRun.paddedLine false) {}).failure = none :=
    LogRun.fold_padded_goes rfl hbefore
  refine ⟨?_, fun hplace => ?_, ?_⟩
  · rw [hread]
    exact LogRun.fold_padded_goes hgoes hafter
  · have hstart : (before ++ line :: after).head?.bind List.head? ≠ some '[' := by
      cases before with
      | nil => exact fun hhead => hplace ⟨rfl, hhead⟩
      | cons other rest => exact Log.head_ne_bracket (hbefore other List.mem_cons_self)
    have hone := LogRun.padded_line_of_error hgoes hline hbroken
    rw [read_log_eq_fold (by rw [hinserted]; exact hstart), hinserted, List.foldl_append,
      List.foldl_cons, hone]
    refine ⟨fun hmalformed => ?_, fun hlimit front hfront => ?_⟩
    · rw [if_pos hmalformed, LogRun.fold_padded_left_out, hread]
    · rw [if_neg (by rw [hlimit]; exact Bool.false_ne_true), LogRun.fold_padded_of_stopped rfl,
        read_log_eq_fold (by rw [hfront]; exact Log.head_ne_bracket_of_lines hbefore), hfront]
  · rintro rfl hbracket hfull
    have hstart : (Log.lines inserted.toList).head?.bind List.head? = some '[' := by
      rw [hinserted]
      exact hbracket
    exact read_log_of_no_list hstart (Log.no_document_of_bracket hinserted hbracket hafter hfull)

end Insertion

/-! ## Lines past the limit of digits -/

/-- A record that breaks off in an integer. -/
def cutRecord (digits : List Char) : List Char :=
  "\x7b\"Event\":".toList ++ digits

section CutRecord

open Payload.Reader

variable {cs : List Char} (hdigits : ∀ c ∈ '1' :: cs, ('0' ≤ c && c ≤ '9') = true)
  (hlimit : Decimal.digitLimit < ('1' :: cs).length)
include hdigits hlimit

/-- The reader stops in the integer of a cut record if it has more digits than are read. -/
theorem value_cut_record (fuel depth : Nat) : value (fuel + 3) (depth + 1) (cutRecord ('1' :: cs)) =
    .error (.digits ('1' :: cs).length) := by
  have hone : ('1' :: cs).head? ≠ some '0' := fun h => absurd (Option.some.inj h) (by decide)
  have hnumber : value (fuel + 1) depth ('1' :: cs) = .error (.digits ('1' :: cs).length) :=
    number_past_limit hdigits hone hlimit
  have hkey (start : List Char) :
      textBody start [] ("Event\":".toList ++ '1' :: cs) = .ok ("Event", ':' :: '1' :: cs) := rfl
  have hcolon : skip (':' :: '1' :: cs) = ':' :: '1' :: cs := rfl
  have hspace : skip ('1' :: cs) = '1' :: cs := rfl
  have hmembers : members (fuel + 2) depth [] ('"' :: ("Event\":".toList ++ '1' :: cs)) =
      .error (.digits ('1' :: cs).length) := by
    simp only [members, hkey, hcolon, hspace, hnumber]
  exact hmembers

/-- A record that breaks off in an integer of more digits than are read is past the limits of the
reader, and no fault of its syntax. -/
theorem read_cut_record :
    Payload.read (cutRecord ('1' :: cs)) = .error (.tooManyDigits ('1' :: cs).length) := by
  have hmark : skip (cutRecord ('1' :: cs)) = cutRecord ('1' :: cs) := rfl
  have hlength : (cutRecord ('1' :: cs)).length = cs.length + 10 := rfl
  have hfuel : 2 * (cutRecord ('1' :: cs)).length + 1 = 2 * cs.length + 18 + 3 := by
    rw [hlength, Nat.mul_add]
  have hvalue : value (2 * (cutRecord ('1' :: cs)).length + 1) depthLimit
      (skip (cutRecord ('1' :: cs))) = .error (.digits ('1' :: cs).length) := by
    rw [hmark, hfuel]
    exact value_cut_record hdigits hlimit _ 979
  have hdocument : document (cutRecord ('1' :: cs)) = .error (.digits ('1' :: cs).length) := by
    unfold document
    split
    · next h => exact absurd (List.cons.inj h).1 (by decide)
    · rw [hvalue]
  rw [Payload.read, hdocument]

end CutRecord

/-! ## A log with lines between its lines -/

/-- The line of an event. -/
def eventLine : String :=
  "\x7b\"Event\":\"Unheard\"\x7d"

/-- Two lines of the event, with a blank one between them. -/
def eventLines : String :=
  eventLine ++ "\n \n" ++ eventLine

/-- The lines with a broken one behind the blank one. -/
def brokenLines : String :=
  eventLine ++ "\n \r\n[oops\n" ++ eventLine ++ "\n"

/-- The lines with a broken one in front that begins with a bracket. -/
def bracketLines : String :=
  "[oops\n" ++ eventLines

/-- A line that breaks off in an integer of more digits than are read. -/
def longLine : List Char :=
  cutRecord ('1' :: List.replicate 4300 '1')

/-- Two lines of the event, with the long one between them. -/
def longLines : String :=
  eventLine ++ "\n" ++ String.ofList longLine ++ "\n" ++ eventLine

/-- The line of the event is one of an event. -/
theorem is_event_line : Log.IsEvent eventLine.toList :=
  ⟨[("Event", .text "Unheard")], "Unheard", by decide +kernel, rfl⟩

/-- No character of the line of the event is blank. -/
theorem event_line_solid : ∀ c ∈ eventLine.toList, Text.isBlank c = false := by
  have hall : eventLine.toList.all (fun c => !Text.isBlank c) = true := by decide +kernel
  simpa using hall

/-- No character of the long line is blank. -/
theorem long_line_solid : ∀ c ∈ longLine, Text.isBlank c = false := by
  have hfront : "\x7b\"Event\":".toList.all (fun c => !Text.isBlank c) = true := by decide +kernel
  refine List.forall_mem_append.mpr
    ⟨by simpa using hfront, List.forall_mem_cons.mpr ⟨by decide, ?_⟩⟩
  intro c hmem
  obtain rfl := List.eq_of_mem_replicate hmem
  decide

/-- The long line is not blank. -/
theorem long_line_not_blank : ¬ Log.IsBlank longLine := by
  rw [Log.IsBlank, Log.content, List.filter_eq_nil_iff]
  intro h
  exact h '\x7b' List.mem_cons_self (by decide)

/-- Reading the long line stops at its integer. -/
theorem read_long_line : Payload.read (Text.strip Text.isBlank longLine) =
    .error (.tooManyDigits 4301) := by
  have hstrip : Text.strip Text.isBlank longLine = longLine := by
    have hkept {cs : List Char} (h : ∀ c ∈ cs, Text.isBlank c = false) :
        cs.dropWhile Text.isBlank = cs := by
      cases cs with
      | nil => rfl
      | cons c rest => exact List.dropWhile_cons_of_neg (by simp [h c])
    rw [Text.strip, hkept long_line_solid, hkept fun c hmem =>
      long_line_solid c (List.mem_reverse.mp hmem), List.reverse_reverse]
  have hdigits : ∀ c ∈ '1' :: List.replicate 4300 '1', ('0' ≤ c && c ≤ '9') = true := by
    refine List.forall_mem_cons.mpr ⟨by decide, fun c hmem => ?_⟩
    obtain rfl := List.eq_of_mem_replicate hmem
    decide
  have hlength : ('1' :: List.replicate 4300 '1').length = 4301 := by
    rw [List.length_cons, List.length_replicate]
  have hlimit : Decimal.digitLimit < ('1' :: List.replicate 4300 '1').length :=
    Nat.lt_of_lt_of_eq (Nat.lt_succ_self 4300) hlength.symm
  have hcut := read_cut_record hdigits hlimit
  rw [hlength] at hcut
  rw [hstrip]
  exact hcut

/-- The long line stands between the two others. -/
theorem lines_of_long_lines :
    Log.lines longLines.toList = [eventLine.toList] ++ longLine :: [eventLine.toList] := by
  have htext : longLines.toList =
      eventLine.toList ++ '\n' :: (longLine ++ '\n' :: eventLine.toList) := by
    simp [longLines]
  have hsolid {separator : Char} (hblank : Text.isBlank separator = true) {cs : List Char}
      (h : ∀ c ∈ cs, Text.isBlank c = false) : separator ∉ cs := fun hmem => by
    rw [h separator hmem] at hblank
    cases hblank
  have hfeed : Text.isBlank '\n' = true := by decide
  have hreturn : Text.isBlank '\r' = true := by decide
  have hunified : Log.unifyLineEnds longLines.toList = longLines.toList := by
    refine Log.unify_of_not_mem ?_
    rw [htext]
    simp [hsolid hreturn event_line_solid, hsolid hreturn long_line_solid]
  rw [Log.lines, hunified, htext, Text.pieces_line (hsolid hfeed event_line_solid),
    Text.pieces_line (hsolid hfeed long_line_solid),
    Text.pieces_whole (hsolid hfeed event_line_solid)]
  rfl

/-- A broken line between the others is counted and loses nothing; in front of the others, with its
bracket, it loses both events. A line with too long an integer loses the event behind it. -/
theorem read_log_insert_oops :
    readLog false brokenLines = (readLog false eventLines).leftOut ∧
      (readLog false brokenLines).counts.total = 3 ∧
      (readLog false brokenLines).counts.failed = 1 ∧
      (readLog false brokenLines).events.length = 2 ∧
      (readLog false bracketLines).events = [] ∧ (readLog false bracketLines).counts = {} ∧
      readLog false longLines =
        { readLog false eventLine with failure := some (.tooManyDigits 4301) } := by
  have heventLines :
      Log.lines eventLines.toList = [eventLine.toList, [' ']] ++ [eventLine.toList] := by
    decide +kernel
  have hbrokenLines : Log.lines brokenLines.toList =
      [eventLine.toList, [' ']] ++ "[oops".toList :: [eventLine.toList] := by
    decide +kernel
  have hbracketLines : Log.lines bracketLines.toList =
      [] ++ "[oops".toList :: [eventLine.toList, [' '], eventLine.toList] := by
    decide +kernel
  have hlines : ∀ other ∈ [eventLine.toList, [' ']] ++ [eventLine.toList],
      Log.IsBlank other ∨ Log.IsEvent other := by
    simp only [List.cons_append, List.nil_append, List.forall_mem_cons]
    exact ⟨.inr is_event_line, .inl (by unfold Log.IsBlank; decide), .inr is_event_line, nofun⟩
  have hline : ¬ Log.IsBlank "[oops".toList := by
    unfold Log.IsBlank
    decide +kernel
  obtain ⟨failure, hbroken, hmalformed⟩ : ∃ failure,
      Payload.read (Text.strip Text.isBlank "[oops".toList) = .error failure ∧
        failure.isMalformed = true := ⟨_, rfl, rfl⟩
  have hfull : ∃ other ∈ [eventLine.toList, [' '], eventLine.toList], ¬ Log.IsBlank other := by
    refine ⟨eventLine.toList, List.mem_cons_self, ?_⟩
    unfold Log.IsBlank
    decide +kernel
  obtain ⟨-, hbetween, -⟩ := read_log_insert heventLines hbrokenLines hlines hline hbroken
  have hall : Log.lines eventLines.toList =
      [] ++ [eventLine.toList, [' '], eventLine.toList] := heventLines
  obtain ⟨-, -, hfront⟩ := read_log_insert hall hbracketLines hlines hline hbroken
  have hcounts : (readLog false brokenLines).counts.total = 3 ∧
      (readLog false brokenLines).counts.failed = 1 ∧
      (readLog false brokenLines).events.length = 2 := by
    decide +kernel
  obtain ⟨hnothing, hnone⟩ := hfront rfl rfl hfull
  have hboth : Log.lines (eventLine ++ "\n" ++ eventLine).toList =
      [eventLine.toList] ++ [eventLine.toList] := by
    decide +kernel
  have hevents : ∀ other ∈ [eventLine.toList] ++ [eventLine.toList],
      Log.IsBlank other ∨ Log.IsEvent other := by
    simp only [List.cons_append, List.nil_append, List.forall_mem_cons]
    exact ⟨.inr is_event_line, .inr is_event_line, nofun⟩
  obtain ⟨-, hlong, -⟩ :=
    read_log_insert hboth lines_of_long_lines hevents long_line_not_blank read_long_line
  exact ⟨(hbetween nofun).1 hmalformed, hcounts.1, hcounts.2.1, hcounts.2.2, hnothing, hnone,
    (hlong nofun).2 rfl eventLine (by decide +kernel)⟩

/-- The line of the event behind a space that no document has. -/
def spacedLine : String :=
  "\u00a0" ++ eventLine

/-- Lines that are no documents lose other lines, or are not lost themselves: one with too long an
integer, behind which nothing is read or counted; a bracket in front of an event, with which nothing
is read or counted either; and an event in a padding that the reader strips, which is read. -/
theorem read_log_insert_exceptions :
    (Log.lines (eventLine ++ "\n" ++ eventLine).toList =
          [eventLine.toList] ++ [eventLine.toList] ∧
        Log.lines longLines.toList = [eventLine.toList] ++ longLine :: [eventLine.toList] ∧
        Log.IsEvent eventLine.toList ∧ ¬ Log.IsBlank longLine ∧
        (∃ failure, Payload.read (Text.strip Text.isBlank longLine) = .error failure) ∧
        readLog false longLines ≠ (readLog false (eventLine ++ "\n" ++ eventLine)).leftOut) ∧
      (Log.lines eventLine.toList = [] ++ [eventLine.toList] ∧
        Log.lines ("[\n" ++ eventLine).toList = [] ++ ['['] :: [eventLine.toList] ∧
        ¬ Log.IsBlank ['['] ∧ (∃ failure, Payload.read ['['] = .error failure) ∧
        readLog false ("[\n" ++ eventLine) ≠ (readLog false eventLine).leftOut) ∧
      Log.lines "".toList = [] ∧ Log.lines spacedLine.toList = [] ++ spacedLine.toList :: [] ∧
        ¬ Log.IsBlank spacedLine.toList ∧
        (∃ failure, Payload.read spacedLine.toList = .error failure) ∧
        readLog false spacedLine ≠ (readLog false "").leftOut := by
  have hlong : (readLog false longLines).counts.total ≠
      (readLog false (eventLine ++ "\n" ++ eventLine)).leftOut.counts.total := by
    have hevent : (({} : LogRun).paddedLine false eventLine.toList).failure = none :=
      LogRun.padded_line_goes rfl (.inr is_event_line)
    rw [read_log_eq_fold (by rw [lines_of_long_lines]; decide +kernel), lines_of_long_lines,
      List.singleton_append, List.foldl_cons, List.foldl_cons,
      LogRun.padded_line_of_error hevent long_line_not_blank read_long_line,
      LogRun.fold_padded_of_stopped rfl]
    decide +kernel
  have hbracket : (readLog false ("[\n" ++ eventLine)).counts.total ≠
      (readLog false eventLine).leftOut.counts.total := by
    decide +kernel
  have hpadded : (readLog false spacedLine).counts.failed ≠
      (readLog false "").leftOut.counts.failed := by
    decide +kernel
  refine ⟨⟨by decide +kernel, lines_of_long_lines, is_event_line, long_line_not_blank,
      ⟨_, read_long_line⟩, ?_⟩, ⟨by decide +kernel, by decide +kernel, ?_, ⟨_, rfl⟩, ?_⟩,
    by decide +kernel, by decide +kernel, ?_, ⟨_, rfl⟩, ?_⟩
  · exact fun h => hlong (congrArg (fun run : LogRun => run.counts.total) h)
  · unfold Log.IsBlank
    decide
  · exact fun h => hbracket (congrArg (fun run : LogRun => run.counts.total) h)
  · unfold Log.IsBlank
    decide +kernel
  · exact fun h => hpadded (congrArg (fun run : LogRun => run.counts.failed) h)

end SparkLog
