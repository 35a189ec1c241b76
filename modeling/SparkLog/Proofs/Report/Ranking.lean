import SparkLog.Report.Files
import SparkLog.Proofs.Listing.Qualification
import SparkLog.Proofs.Number.Rounding
import SparkLog.Proofs.Rearrangement.Sorting

/-!
# Summaries of applications, ranked

The qualification of several applications has one row per application, the summary of that
application: the highest score first, the missing scores last, and rows of equal score in the order
of the applications (`qualification_ranked`). Cells come as they are in the summaries. Only where a
column mixes integers from `2 ^ 63` on with smaller ones, no type of 64 bits holds them together,
and each becomes the nearest floating-point number (`far_durations_joined`).
-/

namespace SparkLog

/-! ## Columns below each other -/

/-- Whether a cell is an integer with a property. -/
def Cell.isIntOf (test : Int → Bool) : Cell → Bool
  | .int n => test n
  | _ => false

/-- Whether a column is of integers of 64 bits, of which some are too large for words with a sign
and some are below those. -/
def Column.spansWords (cells : List Cell) : Bool :=
  cells.all (Cell.isIntOf fun n => -Word.half ≤ n && n < Word.count) &&
    cells.any (Cell.isIntOf (· < Word.half)) && cells.any (Cell.isIntOf (Word.half ≤ ·))

/-- A column that spans words is of integers. -/
theorem Column.ints_of_spans_words {cells : List Cell} (h : spansWords cells = true) :
    ∀ cell ∈ cells, ∃ n, cell = .int n := by
  intro cell hmem
  simp only [spansWords, Bool.and_eq_true, List.all_eq_true] at h
  have hint := h.1.1 cell hmem
  cases cell with
  | int n => exact ⟨n, rfl⟩
  | _ => cases hint

/-- A column without integers spans no words. -/
theorem Column.spans_words_of_no_int {cells : List Cell}
    (h : ∀ cell ∈ cells, ∀ n, cell ≠ .int n) : spansWords cells = false := by
  cases hspans : spansWords cells with
  | false => rfl
  | true =>
      cases cells with
      | nil => cases hspans
      | cons cell rest =>
          obtain ⟨n, hn⟩ := ints_of_spans_words hspans cell List.mem_cons_self
          exact absurd hn (h cell List.mem_cons_self n)

namespace Table

/-- The type of a part of one integer: none of 64 bits, one with a sign below the half of all words,
and one without a sign from there on. -/
theorem part_type_int (n : Int) : PartType.ofCells [.int n] =
    if -Word.half ≤ n ∧ n < Word.count then
      if Word.half ≤ n then .unsigned else .signed
    else .anything := by
  let sight : Column.Sight := { negative := n < 0, large := Word.half ≤ n }
  have hkind : Column.numberKind [.int n] {} =
      if (Binary64.ofInt? n).isNone then .anything
      else if sight.tooWide n then .anything else .ints := by
    simp [Column.numberKind, sight]
  by_cases hwords : -Word.half ≤ n ∧ n < Word.count
  · have hrange : (Binary64.ofInt? n).isNone = false := by
      have hwithin : ¬ Payload.ExceedsRange Word.count := by decide +kernel
      refine Bool.eq_false_iff.mpr fun hnone => hwithin ?_
      refine Payload.ExceedsRange.of_le (Option.isNone_iff_eq_none.mp hnone) ?_
      simp only [Word.half, Word.count] at hwords ⊢
      omega
    have hnarrow : sight.tooWide n = false := by
      simp only [sight, Column.Sight.tooWide, Bool.or_eq_false_iff, Bool.and_eq_false_iff,
        decide_eq_false_iff_not]
      unfold Word.half Word.count at hwords ⊢
      omega
    rw [hrange, hnarrow] at hkind
    rw [if_pos hwords]
    simp [PartType.ofCells, hkind]
  · have hwide : sight.tooWide n = true := by
      simp only [sight, Column.Sight.tooWide, Bool.or_eq_true, Bool.and_eq_true, decide_eq_true_eq]
      unfold Word.half Word.count at hwords ⊢
      omega
    rw [hwide] at hkind
    rw [if_neg hwords]
    split at hkind <;> simp [PartType.ofCells, hkind]

/-- A part of one cell that is no integer is of a floating-point number or has no type. -/
theorem part_type_of_no_int {cell : Cell} (h : ∀ n, cell ≠ .int n) :
    (∃ x, cell = .float x) ∨ PartType.ofCells [cell] = .anything := by
  cases cell with
  | int n => exact absurd rfl (h n)
  | float x => exact .inl ⟨x, rfl⟩
  | _ => exact .inr rfl

/-- Whether a cell is an integer of 64 bits, with a sign or without one. -/
def isWord : Cell → Bool :=
  Cell.isIntOf fun n => -Word.half ≤ n && n < Word.count

/-- A part of one integer of 64 bits has the type that the integer asks for. -/
theorem part_type_of_word {cell : Cell} (h : isWord cell = true) : PartType.ofCells [cell] =
    if cell.isIntOf (Word.half ≤ ·) then .unsigned else .signed := by
  cases cell with
  | int n =>
      simp only [isWord, Cell.isIntOf, Bool.and_eq_true, decide_eq_true_eq] at h
      rw [part_type_int, if_pos h]
      simp only [Cell.isIntOf, decide_eq_true_eq]
  | _ => cases h

/-- A part of one cell that is neither a floating-point number nor an integer of 64 bits has no
type. -/
theorem part_type_of_no_word {cell : Cell} (hfloat : ∀ x, cell ≠ .float x)
    (h : ¬ isWord cell = true) : PartType.ofCells [cell] = .anything := by
  cases cell with
  | float x => exact absurd rfl (hfloat x)
  | int n =>
      simp only [isWord, Cell.isIntOf, Bool.and_eq_true, decide_eq_true_eq] at h
      rw [part_type_int, if_neg h]
  | _ => rfl

section Join

variable {cells : List Cell}

/-- Parts of one cell each hold the cells. -/
theorem flatten_singletons : (cells.map fun cell => [cell]).flatten = cells :=
  List.flatMap_def.symm.trans (List.flatMap_singleton' cells)

/-- Parts of one cell each stay as they are below each other if none is an integer. -/
theorem join_of_no_int (h : ∀ cell ∈ cells, ∀ n, cell ≠ .int n) :
    joinColumn (cells.map fun cell => [cell]) = cells := by
  unfold joinColumn
  dsimp only
  rw [flatten_singletons]
  split
  · rfl
  · rename_i htyped
    split
    · rfl
    · refine (List.map_congr_left fun cell hmem => ?_).trans (List.map_id cells)
      obtain ⟨x, rfl⟩ | hnone := part_type_of_no_int (h cell hmem)
      · rfl
      · refine absurd (List.contains_iff_mem.mpr ?_) htyped
        exact List.mem_map.mpr ⟨[cell], List.mem_map_of_mem hmem, hnone⟩

section Words

variable (hwords : cells.all isWord = true)
include hwords

/-- Parts of one integer of 64 bits each have types. -/
theorem words_typed : PartType.anything ∉ cells.map fun cell => PartType.ofCells [cell] := by
  intro hmem
  obtain ⟨cell, hmem, hcell⟩ := List.mem_map.mp hmem
  rw [part_type_of_word (List.all_eq_true.mp hwords cell hmem)] at hcell
  split at hcell <;> cases hcell

/-- Parts of one integer of 64 bits each all have a sign if no integer is too large for that. -/
theorem words_all_signed : (cells.map fun cell => PartType.ofCells [cell]).all (· == .signed) =
    !cells.any (Cell.isIntOf (Word.half ≤ ·)) := by
  rw [Bool.eq_iff_iff, List.all_map, List.all_eq_true, Bool.not_eq_true', List.any_eq_false]
  refine forall₂_congr fun cell hmem => ?_
  rw [Function.comp, part_type_of_word (List.all_eq_true.mp hwords cell hmem)]
  split <;> simp_all

/-- Parts of one integer of 64 bits each all have no sign if every integer is too large for one. -/
theorem words_all_unsigned : (cells.map fun cell => PartType.ofCells [cell]).all (· == .unsigned) =
    !cells.any (Cell.isIntOf (· < Word.half)) := by
  rw [Bool.eq_iff_iff, List.all_map, List.all_eq_true, Bool.not_eq_true', List.any_eq_false]
  refine forall₂_congr fun cell hmem => ?_
  have hword := List.all_eq_true.mp hwords cell hmem
  cases cell with
  | int n =>
      rw [Function.comp, part_type_of_word hword]
      simp only [Cell.isIntOf, decide_eq_true_eq, Int.not_lt]
      split <;> simp_all
  | _ => cases hword

end Words

/-- Parts of one cell each stay as they are below each other if none is a floating-point number, but
for integers that span words with and without a sign. -/
theorem join_of_no_float (h : ∀ cell ∈ cells, ∀ x, cell ≠ .float x) :
    joinColumn (cells.map fun cell => [cell]) =
      if Column.spansWords cells then cells.map Cell.toFloat else cells := by
  have htypes : (cells.map fun cell => [cell]).map PartType.ofCells =
      cells.map fun cell => PartType.ofCells [cell] := List.map_map
  have hspans : Column.spansWords cells = (cells.all isWord &&
      cells.any (Cell.isIntOf (· < Word.half)) && cells.any (Cell.isIntOf (Word.half ≤ ·))) := rfl
  unfold joinColumn
  dsimp only
  rw [flatten_singletons, htypes, hspans]
  cases hwords : cells.all isWord with
  | false =>
      obtain ⟨cell, hmem, hother⟩ := List.all_eq_false.mp hwords
      have hany : PartType.anything ∈ cells.map fun cell => PartType.ofCells [cell] :=
        List.mem_map.mpr ⟨cell, hmem, part_type_of_no_word (h cell hmem) hother⟩
      rw [if_pos (List.contains_iff_mem.mpr hany)]
      rfl
  | true =>
      rw [if_neg (List.contains_iff_mem.not.mpr (words_typed hwords)), words_all_signed hwords,
        words_all_unsigned hwords]
      cases cells.any (Cell.isIntOf (Word.half ≤ ·)) <;>
        cases cells.any (Cell.isIntOf (· < Word.half)) <;> rfl

end Join

end Table

namespace Listing

/-! ## Scores -/

/-- Whether two scores are the same, or both missing. -/
def sameScore : Cell → Cell → Bool
  | .float x, .float y => Binary64.compare? x y == some .eq
  | .missing, .missing => true
  | _, _ => false

/-- The keys by which the highest score comes first, and the missing scores last. -/
def scoreKeys : Cell → List Int
  | .float (.infinite false) => [0]
  | .float (.finite negative rank) => [1, -Binary64.signedUnits negative rank]
  | .float (.infinite true) => [2]
  | _ => [3]

/-- The keys of a finite score. -/
theorem score_keys_finite (negative : Bool) (rank : Fin Binary64.rankLimit) :
    scoreKeys (.float (.finite negative rank)) = [1, -Binary64.signedUnits negative rank] :=
  rfl

/-- A score is missing, or it is a number. -/
def IsScore (cell : Cell) : Prop :=
  cell = .missing ∨ ∃ x, cell = .float x ∧ x ≠ .nan

/-- The same scores have the same keys. -/
theorem score_keys_of_same {a b : Cell} (h : sameScore a b = true) : scoreKeys a = scoreKeys b := by
  unfold sameScore at h
  split at h
  · next x y =>
      have hsame := eq_of_beq h
      cases x with
      | nan => cases hsame
      | infinite s =>
          cases y with
          | nan => cases hsame
          | infinite t => cases s <;> cases t <;> first | rfl | cases hsame
          | finite t b => cases s <;> simp [Binary64.compare?] at hsame
      | finite s a =>
          cases y with
          | nan => cases hsame
          | infinite t => cases t <;> simp [Binary64.compare?] at hsame
          | finite t b =>
              rw [Binary64.compare?, Option.some.injEq, Int.compare_eq_eq] at hsame
              rw [score_keys_finite, score_keys_finite, hsame]
  · rfl
  · cases h

/-- A score is in front of another one as its keys are. -/
theorem score_le_eq {a b : Cell} (ha : IsScore a) (hb : IsScore b) :
    scoreLe a b = lexLe (scoreKeys a) (scoreKeys b) := by
  obtain rfl | ⟨x, rfl, hx⟩ := ha
  · obtain rfl | ⟨y, rfl, hy⟩ := hb
    · rfl
    · cases y with
      | nan => exact absurd rfl hy
      | infinite t => cases t <;> rfl
      | finite t b => rfl
  · cases x with
    | nan => exact absurd rfl hx
    | infinite s =>
        obtain rfl | ⟨y, rfl, hy⟩ := hb
        · cases s <;> rfl
        · cases y with
          | nan => exact absurd rfl hy
          | infinite t => cases s <;> cases t <;> rfl
          | finite t b => cases s <;> rfl
    | finite s a =>
        obtain rfl | ⟨y, rfl, hy⟩ := hb
        · rfl
        · cases y with
          | nan => exact absurd rfl hy
          | infinite t => cases t <;> rfl
          | finite t b =>
              rw [Bool.eq_iff_iff, scoreLe, Binary64.compare?, bne_iff_ne, Ne, Option.some.injEq,
                Int.compare_eq_lt]
              rw [score_keys_finite, score_keys_finite]
              simp only [lexLe, Bool.or_eq_true, Bool.and_eq_true, decide_eq_true_eq, beq_iff_eq,
                and_true, true_and]
              omega

/-- A score in front of another one is no lower than that, or the other one is missing. -/
theorem score_le_cases {a b : Cell} (ha : IsScore a) (hb : IsScore b) (h : scoreLe a b = true) :
    b = .missing ∨ ∃ x y, a = .float x ∧ b = .float y ∧
      (Binary64.compare? x y = some .gt ∨ Binary64.compare? x y = some .eq) := by
  obtain rfl | ⟨y, rfl, hy⟩ := hb
  · exact .inl rfl
  · obtain rfl | ⟨x, rfl, hx⟩ := ha
    · cases h
    · refine .inr ⟨x, y, rfl, rfl, ?_⟩
      rw [scoreLe, bne_iff_ne] at h
      have hsome : ∃ ordering, Binary64.compare? x y = some ordering := by
        cases x with
        | nan => exact absurd rfl hx
        | _ =>
            cases y with
            | nan => exact absurd rfl hy
            | _ => exact ⟨_, rfl⟩
      obtain ⟨ordering, hordering⟩ := hsome
      rw [hordering] at h ⊢
      cases ordering with
      | lt => exact absurd rfl h
      | eq => exact .inr rfl
      | gt => exact .inl rfl

/-! ## Rows of summaries -/

/-- The score in a row of summaries. -/
def rowScore (row : List Cell) : Cell :=
  row.getD (summaryColumns.idxOf "Score") .missing

/-- The row of a summary: its score is one, and among its numbers those of the score and of the
share of the time are no integers, and the others are. -/
structure IsSummaryRow (row : List Cell) : Prop where
  width : row.length = summaryColumns.length
  score : IsScore (rowScore row)
  kinds : ∀ position, (∀ n, row.getD position .missing ≠ .int n) ∧ (position = 3 ∨ position = 7) ∨
    (∀ x, row.getD position .missing ≠ .float x) ∧ ¬ (position = 3 ∨ position = 7)

/-- A summary of one row. -/
def summaryOf (row : List Cell) : Table :=
  { columns := summaryColumns, rows := [row], message := none }

/-- The summary of an application is one row, and without an application there is none. -/
theorem qualification_summary_cases {store : Store} {index : Int} {summary : Table}
    (h : qualificationSummary store index = .ok summary) :
    store.application.isSome = false ∧ summary.isEmpty = true ∨
      store.application.isSome = true ∧ ∃ row, IsSummaryRow row ∧ summary = summaryOf row := by
  unfold qualificationSummary at h
  split at h
  · next hnone =>
      obtain rfl := Except.ok.inj h
      exact .inl ⟨hnone ▸ rfl, rfl⟩
  · next application happlication =>
      simp only [bind_eq_ok_iff] at h
      obtain ⟨score, hscore, share, -, htable⟩ := h
      refine .inr ⟨happlication ▸ rfl, _, ⟨rfl, ?_, fun position => ?_⟩,
        (pure_eq_ok_iff.mp htable).symm.trans (Table.of_rows_singleton rfl)⟩
      · show IsScore (Cell.ofOption .float score)
        cases score with
        | none => exact .inl rfl
        | some score => exact .inr ⟨score, rfl, score_ne_nan hscore⟩
      · match position with
        | 3 => exact .inl ⟨fun n => by cases score <;> exact nofun, .inl rfl⟩
        | 7 => exact .inl ⟨fun n => by cases share <;> exact nofun, .inr rfl⟩
        | 6 => exact .inr ⟨fun x => by cases application.duration <;> exact nofun, by decide⟩
        | 0 | 1 | 2 | 4 | 5 | 8 => exact .inr ⟨nofun, by decide⟩
        | position + 9 => exact .inr ⟨nofun, by omega⟩

/-- The row of a summary below others: in a column of integers that span words with and without a
sign, its integer is a floating-point number. -/
def joinedRow (rows : List (List Cell)) (row : List Cell) : List Cell :=
  (List.range summaryColumns.length).map fun position =>
    let cell := row.getD position .missing
    if Column.spansWords (Table.cellsAt rows position) then cell.toFloat else cell

section Ranking

variable {rows : List (List Cell)} (hrows : ∀ row ∈ rows, IsSummaryRow row)
include hrows

/-- The scores of summaries are no integers. -/
theorem scores_span_no_words : Column.spansWords (Table.cellsAt rows 3) = false := by
  refine Column.spans_words_of_no_int (List.forall_mem_map.mpr fun row hmem n hn => ?_)
  obtain hmissing | ⟨x, hx, -⟩ := (hrows row hmem).score
  · cases hmissing.symm.trans hn
  · cases hx.symm.trans hn

/-- A column of summaries below each other. -/
theorem join_summaries (position : Nat) :
    Table.joinColumn ((rows.map summaryOf).map fun table => Table.cellsAt table.rows position) =
      if Column.spansWords (Table.cellsAt rows position) then
        (Table.cellsAt rows position).map Cell.toFloat
      else Table.cellsAt rows position := by
  have hparts : ((rows.map summaryOf).map fun table => Table.cellsAt table.rows position) =
      (Table.cellsAt rows position).map fun cell => [cell] := by
    rw [Table.cellsAt, List.map_map, List.map_map]
    rfl
  rw [hparts]
  by_cases hposition : position = 3 ∨ position = 7
  · have hints : ∀ cell ∈ Table.cellsAt rows position, ∀ n, cell ≠ .int n :=
      List.forall_mem_map.mpr fun row hmem =>
        (((hrows row hmem).kinds position).resolve_right fun h => h.2 hposition).1
    rw [Table.join_of_no_int hints, Column.spans_words_of_no_int hints]
    rfl
  · exact Table.join_of_no_float <| List.forall_mem_map.mpr fun row hmem =>
      (((hrows row hmem).kinds position).resolve_left fun h => hposition h.2).1

/-- Rows of summaries below each other. -/
theorem concat_summaries : Table.concat summaryColumns (rows.map summaryOf) =
    { columns := summaryColumns, rows := rows.map (joinedRow rows), message := none } := by
  have hheight : ((rows.map summaryOf).flatMap Table.rows).length = rows.length := by
    rw [List.flatMap_map]
    exact congrArg List.length (List.flatMap_singleton' rows)
  unfold Table.concat
  simp only [join_summaries hrows, hheight]
  congr 1
  refine List.ext_getElem (by simp [Table.rowsOf]) fun k hk hk' => ?_
  have hk : k < rows.length := by simpa using hk'
  simp only [Table.rowsOf, joinedRow, List.getElem_map, List.getElem_range, List.map_map]
  refine List.map_congr_left fun position _ => ?_
  rw [Function.comp]
  split <;> simp [Table.cellsAt, hk]

/-- The score of a row stays as it is below others. -/
theorem joined_row_score (row : List Cell) :
    (joinedRow rows row).getD 3 .missing = rowScore row := by
  have hscore : (joinedRow rows row).getD 3 .missing =
      if Column.spansWords (Table.cellsAt rows 3) then (rowScore row).toFloat
      else rowScore row := rfl
  rw [hscore, scores_span_no_words hrows]
  rfl

/-- A cell of a row stays as it is below others, or it is an integer of a column that spans words
with and without a sign, and becomes the nearest floating-point number. -/
theorem joined_row_cases {row : List Cell} (hmem : row ∈ rows) (position : Nat) :
    (joinedRow rows row).getD position .missing = row.getD position .missing ∨
      Column.spansWords (Table.cellsAt rows position) = true ∧ ∃ n,
        row.getD position .missing = .int n ∧
          (joinedRow rows row).getD position .missing = .float (Binary64.ofRatio n 1) ∧
          (n.natAbs < 2 ^ 53 → (Binary64.ofRatio n 1).toInt? = some n) := by
  obtain hlt | hge := Nat.lt_or_ge position summaryColumns.length
  · have hcell : (joinedRow rows row).getD position .missing =
        if Column.spansWords (Table.cellsAt rows position) then
          (row.getD position .missing).toFloat
        else row.getD position .missing := by
      simp [joinedRow, hlt]
    cases hspans : Column.spansWords (Table.cellsAt rows position) with
    | false => exact .inl (hcell.trans (by rw [hspans]; rfl))
    | true =>
        obtain ⟨n, hn⟩ := Column.ints_of_spans_words hspans _ (List.mem_map_of_mem hmem)
        rw [hspans, if_pos rfl, hn] at hcell
        exact .inr ⟨rfl, n, hn, hcell, fun hsmall => (Binary64.of_ratio_units hsmall).to_int⟩
  · left
    rw [List.getD_eq_default _ _ (by simpa [joinedRow] using hge),
      List.getD_eq_default _ _ ((hrows row hmem).width ▸ hge)]

/-- Rows of summaries are ranked by their scores. -/
theorem rank_summaries_eq {tables : List Table}
    (htables : tables.filter (!·.isEmpty) = rows.map summaryOf) (hsome : rows ≠ []) :
    rankSummaries tables =
      { columns := summaryColumns
        rows := (sortByKeys (fun row => scoreKeys (rowScore row)) rows).map (joinedRow rows)
        message := none } := by
  have hnonempty : (rows.map summaryOf).isEmpty = false := by
    simpa using hsome
  unfold rankSummaries
  simp only [htables, hnonempty, concat_summaries hrows]
  rw [if_neg Bool.false_ne_true]
  congr 1
  refine (List.map_mergeSort fun a ha b hb => ?_).symm
  rw [joined_row_score hrows, joined_row_score hrows]
  exact (score_le_eq (hrows a ha).score (hrows b hb).score).symm

end Ranking

end Listing

namespace Report

open Listing

/-- Where every summary is formed, the applications have one row each, in their order. -/
theorem summaries_of_analyses {analyses : List Analysis}
    (h : ∀ analysis ∈ analyses, ∃ summary,
      qualificationSummary analysis.store analysis.index = .ok summary) :
    ∃ tables rows,
      (analyses.mapM fun analysis => qualificationSummary analysis.store analysis.index) =
        .ok tables ∧
      tables.filter (!·.isEmpty) = rows.map summaryOf ∧ (∀ row ∈ rows, IsSummaryRow row) ∧
      List.Forall₂ (fun analysis row =>
          qualificationSummary analysis.store analysis.index = .ok (summaryOf row))
        (analyses.filter fun analysis => analysis.store.application.isSome) rows := by
  induction analyses with
  | nil => exact ⟨[], [], rfl, rfl, nofun, .nil⟩
  | cons analysis rest ih =>
      obtain ⟨⟨summary, hsummary⟩, hrest⟩ := List.forall_mem_cons.mp h
      obtain ⟨tables, rows, htables, hrows, hkinds, hforall⟩ := ih hrest
      have hall : ((analysis :: rest).mapM fun analysis =>
          qualificationSummary analysis.store analysis.index) = .ok (summary :: tables) := by
        rw [map_m_eq_ok_iff] at htables ⊢
        rw [List.map_cons, List.map_cons, hsummary, htables]
      obtain ⟨hnone, hempty⟩ | ⟨hsome, row, hrow, rfl⟩ := qualification_summary_cases hsummary
      · refine ⟨summary :: tables, rows, hall, ?_, hkinds, ?_⟩
        · rwa [List.filter_cons_of_neg (by simp [hempty])]
        · rwa [List.filter_cons_of_neg (by simp [hnone])]
      · refine ⟨summaryOf row :: tables, row :: rows, hall, ?_,
          List.forall_mem_cons.mpr ⟨hrow, hkinds⟩, ?_⟩
        · rw [List.filter_cons_of_pos rfl, hrows, List.map_cons]
        · rw [List.filter_cons_of_pos (by simp [hsome])]
          exact .cons hsummary hforall

/-- Where every summary is formed, the qualification has the rows of the applications, each once,
ranked: the highest score first, the missing scores last, and rows of the same score, or without
one, in the order of the applications. Below each other the rows stay as they are, but in a column
of integers that span words with and without a sign each integer becomes the nearest floating-point
number, which is the same below two to the power 53. -/
theorem qualification_ranked {analyses : List Analysis}
    (hsummaries : ∀ analysis ∈ analyses, ∃ summary,
      qualificationSummary analysis.store analysis.index = .ok summary) :
    ∃ rows ranked : List (List Cell),
      List.Forall₂ (fun analysis row =>
          qualificationSummary analysis.store analysis.index = .ok (summaryOf row))
        (analyses.filter fun analysis => analysis.store.application.isSome) rows ∧
      ranked.Perm rows ∧
      (∀ row ∈ rows, IsScore (rowScore row) ∧ rowScore (joinedRow rows row) = rowScore row) ∧
      ranked.Pairwise (fun a b => rowScore b = .missing ∨ ∃ x y, rowScore a = .float x ∧
        rowScore b = .float y ∧
        (Binary64.compare? x y = some .gt ∨ Binary64.compare? x y = some .eq)) ∧
      (∀ score, (ranked.filter fun row => sameScore score (rowScore row)) =
        rows.filter fun row => sameScore score (rowScore row)) ∧
      qualification analyses = .ok
        (if rows.isEmpty then .noData summaryColumns "No Applications Qualified!"
        else { columns := summaryColumns, rows := ranked.map (joinedRow rows), message := none }) ∧
      ∀ row ∈ rows, ∀ position,
        (joinedRow rows row).getD position .missing = row.getD position .missing ∨
          Column.spansWords (Table.cellsAt rows position) = true ∧ ∃ n,
            row.getD position .missing = .int n ∧
              (joinedRow rows row).getD position .missing = .float (Binary64.ofRatio n 1) ∧
              (n.natAbs < 2 ^ 53 → (Binary64.ofRatio n 1).toInt? = some n) := by
  obtain ⟨tables, rows, htables, hfilter, hrows, hforall⟩ := summaries_of_analyses hsummaries
  have hranked := List.mergeSort_perm rows fun a b =>
    lexLe (scoreKeys (rowScore a)) (scoreKeys (rowScore b))
  refine ⟨rows, sortByKeys (fun row => scoreKeys (rowScore row)) rows, hforall, hranked,
    fun row hmem => ⟨(hrows row hmem).score, joined_row_score hrows row⟩, ?_, fun score => ?_, ?_,
    fun row hmem position => ?_⟩
  · refine (sort_by_keys_sorted (fun row => scoreKeys (rowScore row)) rows).imp_of_mem ?_
    intro a b ha hb hle
    have ha := (hrows a (hranked.mem_iff.mp ha)).score
    have hb := (hrows b (hranked.mem_iff.mp hb)).score
    exact score_le_cases ha hb ((score_le_eq ha hb).trans hle)
  · refine sort_by_keys_filter _ rows fun a b ha hb => ?_
    exact (score_keys_of_same ha).symm.trans (score_keys_of_same hb)
  · unfold qualification
    rw [htables]
    cases rows with
    | nil =>
        have hnone : tables.filter (!·.isEmpty) = [] := hfilter
        show Except.ok (rankSummaries tables) = _
        unfold rankSummaries
        simp only [hnone]
        rfl
    | cons row rest => exact congrArg Except.ok (rank_summaries_eq hrows hfilter nofun)
  · exact joined_row_cases hrows hmem position

/-- The log of an application that starts at time zero and ends at another time, if it ends. A query
starts with it, and ends at a time, if it ends. -/
def timedLog (name : String) (queryEnd finish : Option Int) : List Payload :=
  [ .object
      [ ("Event", .text "SparkListenerApplicationStart"), ("App Name", .text name),
        ("Timestamp", .int 0) ],
    .object
      [ ("Event", .text "org.apache.spark.sql.execution.ui.SparkListenerSQLExecutionStart"),
        ("executionId", .int 3), ("time", .int 0),
        ("sparkPlanInfo", .object [("nodeName", .text "Project")]) ] ] ++
  queryEnd.toList.map (fun time => .object
    [ ("Event", .text "org.apache.spark.sql.execution.ui.SparkListenerSQLExecutionEnd"),
      ("executionId", .int 3), ("time", .int time) ]) ++
  finish.toList.map fun time => .object
    [("Event", .text "SparkListenerApplicationEnd"), ("Timestamp", .int time)]

/-- Applications with the scores 50 and 90, without a score and without an application. -/
def rankedLogs : List (List Payload) :=
  [ timedLog "half" (some 25) (some 50), timedLog "endless" none none,
    timedLog "most" (some 90) (some 100), [], timedLog "half again" (some 50) (some 100),
    timedLog "empty" none (some 0) ]

/-- The row of an application of a log, by its name, its score, and the durations of its query and
of itself. -/
def timedRow (name : String) (score : Option Int) (query : Int) (duration : Option Int) :
    List Cell :=
  [ .int 1, .text name, .text "", .ofOption (fun n => .float (Binary64.ofRatio n 1)) score,
    .text "", .int query, .ofOption .int duration, .missing, .bool false ]

/-- Summaries are the same if their rows are. -/
theorem summary_of_injective : Function.Injective summaryOf := fun _ _ h =>
  List.singleton_inj.mp (congrArg Table.rows h)

/-- The rows of the same score, or without one, are ranked in the order of their applications. -/
theorem qualification_ranked_equal :
    let rows :=
      [ timedRow "half" (some 50) 25 (some 50), timedRow "endless" none 0 none,
        timedRow "most" (some 90) 90 (some 100), timedRow "half again" (some 50) 50 (some 100),
        timedRow "empty" none 0 (some 0) ]
    ∃ (analyses : List Analysis) (ranked : List (List Cell)),
      rankedLogs.mapM (Analysis.ofRecords {} 1) = .ok analyses ∧
      (∀ analysis ∈ analyses, ∃ summary,
        qualificationSummary analysis.store analysis.index = .ok summary) ∧
      qualification analyses = .ok
        { columns := summaryColumns, rows := ranked.map (joinedRow rows), message := none } ∧
      ranked.Perm rows ∧
      (ranked.filter fun row => sameScore (.float (Binary64.ofRatio 50 1)) (rowScore row)) =
        [timedRow "half" (some 50) 25 (some 50), timedRow "half again" (some 50) 50 (some 100)] ∧
      (ranked.filter fun row => sameScore .missing (rowScore row)) =
        [timedRow "endless" none 0 none, timedRow "empty" none 0 (some 0)] := by
  intro rows
  have hanswers : (rankedLogs.mapM (Analysis.ofRecords {} 1)).toOption.any (fun analyses =>
      analyses.all (fun analysis =>
        (qualificationSummary analysis.store analysis.index).toOption.isSome) &&
      ((analyses.filter fun analysis => analysis.store.application.isSome).map fun analysis =>
        qualificationSummary analysis.store analysis.index) =
          rows.map fun row => .ok (summaryOf row)) = true := by
    decide +kernel
  obtain ⟨analyses, hanalyses, hboth⟩ := (Option.any_eq_true _ _).mp hanswers
  rw [Bool.and_eq_true, decide_eq_true_eq, List.all_eq_true] at hboth
  have hsummaries : ∀ analysis ∈ analyses, ∃ summary,
      qualificationSummary analysis.store analysis.index = .ok summary := fun analysis hmem =>
    (Option.isSome_iff_exists.mp (hboth.1 analysis hmem)).imp fun _ => to_option_eq_some_iff.mp
  obtain ⟨found, ranked, hfound, hperm, -, -, hstable, htable, -⟩ := qualification_ranked hsummaries
  obtain rfl : found = rows := by
    have hmap := List.forall₂_map_right_iff.mpr (List.forall₂_map_left_iff.mpr hfound)
    rw [List.forall₂_eq_eq_eq, hboth.2] at hmap
    exact List.map_injective_iff.mpr (fun _ _ h => summary_of_injective (Except.ok.inj h)) hmap.symm
  refine ⟨analyses, ranked, to_option_eq_some_iff.mp hanalyses, hsummaries, htable, hperm, ?_, ?_⟩
  · rw [hstable]
    decide +kernel
  · rw [hstable]
    decide +kernel

/-- Two applications, one of which takes so long that only a word without a sign holds its
duration. -/
def farLogs : List (List Payload) :=
  [timedLog "longest" none (some (2 ^ 63)), timedLog "long" none (some (2 ^ 53 + 1))]

/-- Below each other both durations become floating-point numbers, and the shorter one becomes
another number. -/
theorem far_durations_joined :
    ∃ analyses table, farLogs.mapM (Analysis.ofRecords {} 1) = .ok analyses ∧
      (analyses.map fun analysis => qualificationSummary analysis.store analysis.index) =
        [ .ok (summaryOf (timedRow "longest" (some 0) 0 (some (2 ^ 63)))),
          .ok (summaryOf (timedRow "long" (some 0) 0 (some (2 ^ 53 + 1)))) ] ∧
      qualification analyses = .ok table ∧
      table.column "App Duration" =
        [.float (Binary64.ofRatio (2 ^ 63) 1), .float (Binary64.ofRatio (2 ^ 53) 1)] ∧
      ∀ cell ∈ table.column "App Duration", ∃ x, cell = .float x ∧
        x.toInt? ≠ some (2 ^ 53 + 1) := by
  let rows :=
    [ timedRow "longest" (some 0) 0 (some (2 ^ 63)),
      timedRow "long" (some 0) 0 (some (2 ^ 53 + 1)) ]
  let joined := Table.concat summaryColumns (rows.map summaryOf)
  have hanswers : (farLogs.mapM (Analysis.ofRecords {} 1)).toOption.any (fun analyses =>
      (analyses.map fun analysis => qualificationSummary analysis.store analysis.index) =
        rows.map fun row => .ok (summaryOf row)) = true := by
    decide +kernel
  have hsorted : joined.rows.Pairwise fun a b =>
      scoreLe (a.getD 3 .missing) (b.getD 3 .missing) = true := by
    decide +kernel
  have hrank : rankSummaries (rows.map summaryOf) = joined := by
    have hrows := List.mergeSort_of_pairwise hsorted
    exact congrArg (fun rows => ({ joined with rows } : Table)) hrows
  obtain ⟨analyses, hanalyses, hsummaries⟩ := (Option.any_eq_true _ _).mp hanswers
  rw [decide_eq_true_eq] at hsummaries
  have hcolumn : joined.column "App Duration" =
      [.float (Binary64.ofRatio (2 ^ 63) 1), .float (Binary64.ofRatio (2 ^ 53) 1)] := by
    decide +kernel
  refine ⟨analyses, joined, to_option_eq_some_iff.mp hanalyses, hsummaries, ?_, hcolumn, ?_⟩
  · unfold qualification
    rw [map_m_eq_ok_iff.mpr (hsummaries.trans List.map_map.symm)]
    exact congrArg Except.ok hrank
  · rw [hcolumn]
    refine List.forall_mem_cons.mpr ⟨⟨_, rfl, by decide +kernel⟩, ?_⟩
    exact List.forall_mem_singleton.mpr ⟨_, rfl, by decide +kernel⟩

end Report

end SparkLog
