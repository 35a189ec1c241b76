import Mathlib.Data.Set.List
import Mathlib.Tactic.SplitIfs
import SparkLog.Decimal.HalfUp
import SparkLog.Table.Basic
import SparkLog.Proofs.Ingestion.Overflow

/-!
# Columns of tables

A table that is made of rows holds their cells, column by column, as far as the numbers of a column
are of one kind already: a column of integers and a column of one cell stay as they are
(`settle_ints`, `settle_singleton`), and a table whose columns are of integers, of floating-point
numbers or of texts has the rows that it is made of (`rows_of_rows_or`). No integer nearer to zero
than one within the floating-point range is past it (`ExceedsRange.of_le`).
-/

namespace SparkLog

/-! ## The floating-point range -/

namespace Binary64

section RoundHalfEven

variable {num other : Nat} (den : Nat)

/-- An integer that was rounded to is at most one past the quotient that is cut off. -/
theorem round_half_even_bounds (num : Nat) :
    num / den ≤ roundHalfEven num den ∧ roundHalfEven num den ≤ num / den + 1 := by
  unfold roundHalfEven
  dsimp only
  split_ifs <;> omega

/-- Rounding to an integer keeps the order. -/
theorem round_half_even_mono (h : num ≤ other) :
    roundHalfEven num den ≤ roundHalfEven other den := by
  obtain hlt | heq := Nat.lt_or_eq_of_le (Nat.div_le_div_right (c := den) h)
  · have hnum := (round_half_even_bounds den num).2
    have hother := (round_half_even_bounds den other).1
    omega
  · have hrest : num % den ≤ other % den := by
      have hnum := Nat.div_add_mod num den
      have hother := Nat.div_add_mod other den
      rw [← heq] at hother
      omega
    unfold roundHalfEven
    dsimp only
    rw [← heq]
    split_ifs <;> omega

end RoundHalfEven

section NearestRank

variable {num other den : Nat}

/-- The nearest magnitude is in the binade of the quotient that is cut off, or at its upper end. -/
theorem nearest_rank_le : nearestRank num den ≤ (Nat.log2 (num / den) - 52 + 2) * binade := by
  have hnum : num / (den * Nat.pow 2 (Nat.log2 (num / den) - 52)) < 2 * binade := by
    have hpow : 2 * binade = 2 ^ 53 := by decide
    rw [hpow, ← Nat.div_div_eq_div_mul, Nat.pow_eq, Nat.div_lt_iff_lt_mul (Nat.two_pow_pos _),
      ← Nat.pow_add]
    refine Nat.lt_of_lt_of_le Nat.lt_log2_self ?_
    exact Nat.pow_le_pow_right Nat.two_pos (by omega)
  have hround := (round_half_even_bounds (den * Nat.pow 2 (Nat.log2 (num / den) - 52)) num).2
  unfold nearestRank
  dsimp only
  rw [Nat.add_mul]
  omega

/-- The nearest magnitude is in the binade of the quotient that is cut off, or at its upper end,
unless it is among the smallest ones. -/
theorem le_nearest_rank (hshift : Nat.log2 (num / den) - 52 ≠ 0) :
    (Nat.log2 (num / den) - 52 + 1) * binade ≤ nearestRank num den := by
  have hquotient : num / den ≠ 0 := by
    intro hzero
    rw [hzero] at hshift
    exact hshift rfl
  have hnum : binade ≤ num / (den * Nat.pow 2 (Nat.log2 (num / den) - 52)) := by
    have hpow : binade = 2 ^ 52 := by decide
    rw [hpow, ← Nat.div_div_eq_div_mul, Nat.pow_eq, Nat.le_div_iff_mul_le (Nat.two_pow_pos _),
      ← Nat.pow_add, ← Nat.le_log2 hquotient]
    omega
  have hround := (round_half_even_bounds (den * Nat.pow 2 (Nat.log2 (num / den) - 52)) num).1
  unfold nearestRank
  dsimp only
  rw [Nat.add_mul]
  omega

/-- The nearest magnitude keeps the order. -/
theorem nearest_rank_mono (h : num ≤ other) : nearestRank num den ≤ nearestRank other den := by
  have hquotient : num / den ≤ other / den := Nat.div_le_div_right h
  have hshift : Nat.log2 (num / den) - 52 ≤ Nat.log2 (other / den) - 52 := by
    by_cases hzero : num / den = 0
    · simp [hzero]
    · have hpow := Nat.le_trans (Nat.log2_self_le hzero) hquotient
      have hother : other / den ≠ 0 := Nat.ne_of_gt (Nat.lt_of_lt_of_le (Nat.two_pow_pos _) hpow)
      exact Nat.sub_le_sub_right ((Nat.le_log2 hother).mpr hpow) 52
  obtain hlt | heq := Nat.lt_or_eq_of_le hshift
  · calc nearestRank num den
      _ ≤ (Nat.log2 (num / den) - 52 + 2) * binade := nearest_rank_le
      _ ≤ (Nat.log2 (other / den) - 52 + 1) * binade := Nat.mul_le_mul_right _ (by omega)
      _ ≤ nearestRank other den := le_nearest_rank (by omega)
  · unfold nearestRank
    dsimp only
    rw [← heq]
    exact Nat.add_le_add_left (round_half_even_mono _ h) _

end NearestRank

/-- A fraction of units is infinite exactly if the nearest magnitude is past the last one. -/
theorem of_unit_ratio_cases (negative : Bool) (num den : Nat) :
    (rankLimit ≤ nearestRank num den ∧ ofUnitRatio negative num den = .infinite negative) ∨
      nearestRank num den < rankLimit ∧
        ∃ rank, ofUnitRatio negative num den = .finite negative rank := by
  unfold ofUnitRatio
  dsimp only
  split
  · next h => exact .inr ⟨h, _, rfl⟩
  · next h => exact .inl ⟨Nat.le_of_not_lt h, rfl⟩

/-- The number nearest to a decimal is a number. -/
theorem of_decimal_ne_nan (negative : Bool) (coefficient : Nat) (exponent : Int) :
    ofDecimal negative coefficient exponent ≠ .nan := by
  have hratio (num den : Nat) : ofUnitRatio negative num den ≠ .nan := by
    obtain ⟨-, h⟩ | ⟨-, rank, h⟩ := of_unit_ratio_cases negative num den <;> rw [h] <;> exact nofun
  unfold ofDecimal
  split_ifs
  · exact nofun
  · exact nofun
  · exact hratio _ _
  · exact nofun
  · exact hratio _ _

end Binary64

/-- A number that is rounded to places stays a number. -/
theorem Decimal.round_float_ne_nan {x rounded : Binary64} {digits : Int} (hx : x ≠ .nan)
    (h : Decimal.roundFloat? x digits = some rounded) : rounded ≠ .nan := by
  cases x with
  | nan => exact absurd rfl hx
  | infinite negative => cases h
  | finite negative rank =>
      obtain ⟨decimal, -, rfl⟩ := Option.map_eq_some_iff.mp h
      exact Binary64.of_decimal_ne_nan _ _ _

namespace Payload

/-- A quotient of integers is a number. -/
theorem divide_ints_ne_nan {a b : Int} {x : Binary64} (h : divideInts a b = .ok x) : x ≠ .nan := by
  unfold divideInts at h
  cases hquotient : Binary64.ofQuotient a b with
  | finite negative rank =>
      rw [hquotient] at h
      obtain rfl := Except.ok.inj h
      exact nofun
  | _ =>
      rw [hquotient] at h
      cases h

/-- An integer is past the floating-point range exactly if the nearest magnitude is. -/
theorem exceeds_range_iff {n : Int} : ExceedsRange n ↔
    Binary64.rankLimit ≤ Binary64.nearestRank (Binary64.unitsOfOne * n.natAbs) 1 := by
  have hone : ((1 : Nat) : Int).natAbs = 1 := rfl
  unfold ExceedsRange Binary64.ofInt? Binary64.ofRatio Binary64.ofQuotient
  rw [hone]
  obtain ⟨hpast, hinfinite⟩ | ⟨hwithin, rank, hfinite⟩ :=
    Binary64.of_unit_ratio_cases (decide (n < 0) != decide (((1 : Nat) : Int) < 0))
      (Binary64.unitsOfOne * n.natAbs) 1
  · rw [hinfinite]
    exact iff_of_true rfl hpast
  · rw [hfinite]
    exact iff_of_false (Option.some_ne_none _) (Nat.not_le_of_lt hwithin)

/-- What is farther from zero than an integer past the floating-point range is past it. -/
theorem ExceedsRange.of_le {n m : Int} (h : ExceedsRange n) (hle : n.natAbs ≤ m.natAbs) :
    ExceedsRange m :=
  exceeds_range_iff.mpr <| Nat.le_trans (exceeds_range_iff.mp h) <|
    Binary64.nearest_rank_mono (Nat.mul_le_mul_left _ hle)

end Payload

/-! ## Columns -/

namespace Column

/-- Integers only are no column of floating-point numbers. -/
theorem number_kind_ints {sight : Sight} (hsight : sight.missing = false ∧ sight.float = false)
    (numbers : List Int) : numberKind (numbers.map .int) sight ≠ .floats := by
  induction numbers generalizing sight with
  | nil =>
      rw [List.map_nil, numberKind, hsight.1, hsight.2]
      exact nofun
  | cons n rest ih =>
      rw [List.map_cons, numberKind, hsight.1]
      split
      · exact nofun
      · rw [if_neg Bool.false_ne_true]
        dsimp only
        split
        · exact nofun
        · exact ih ⟨rfl, hsight.2⟩

/-- A column stays as it is, or all its numbers become floating-point numbers. -/
theorem settle_cases (cells : List Cell) :
    settle cells = cells ∨ settle cells = cells.map Cell.toFloat := by
  unfold settle
  split
  · exact .inr rfl
  · exact .inl rfl

/-- A column of integers stays as it is. -/
theorem settle_ints (numbers : List Int) : settle (numbers.map .int) = numbers.map .int := by
  have hkind : (numberKind (numbers.map .int) {} == .floats) = false :=
    beq_eq_false_iff_ne.mpr (number_kind_ints ⟨rfl, rfl⟩ numbers)
  rw [settle, hkind, Bool.and_false, if_neg Bool.false_ne_true]

/-- A column of one cell stays as it is. -/
theorem settle_singleton (cell : Cell) : settle [cell] = [cell] := by
  cases cell with
  | int n => exact settle_ints [n]
  | _ => rfl

/-- A column of integers stays as it is, and so does one of cells that stay the same among
floating-point numbers, such as texts. -/
theorem settle_of_kind {cells : List Cell}
    (hkind : (∀ cell ∈ cells, ∃ n, cell = .int n) ∨ ∀ cell ∈ cells, cell.toFloat = cell) :
    settle cells = cells := by
  obtain hints | hsame := hkind
  · obtain ⟨numbers, rfl⟩ : cells ∈ Set.range (List.map .int) := by
      rw [Set.range_list_map]
      exact fun cell hmem => (hints cell hmem).imp fun _ hcell => hcell.symm
    exact settle_ints numbers
  · obtain hsettled | hsettled := settle_cases cells
    · exact hsettled
    · exact hsettled.trans ((List.map_congr_left hsame).trans (List.map_id cells))

/-- Bringing numbers to one kind leaves as many cells. -/
@[simp]
theorem length_settle (cells : List Cell) : (settle cells).length = cells.length := by
  obtain hsettled | hsettled := settle_cases cells <;> simp [hsettled]

end Column

/-! ## Tables -/

namespace Table

/-- The cells of a column, by its name. -/
def column (table : Table) (name : String) : List Cell :=
  cellsAt table.rows (table.columns.idxOf name)

/-- The cell of a row in a column, by its name. -/
def entry (table : Table) (row : List Cell) (name : String) : Cell :=
  row.getD (table.columns.idxOf name) .missing

/-- Rows from the cells of columns hold these cells. -/
theorem cells_at_rows_of {height position : Nat} {parts : List (List Cell)} {cells : List Cell}
    (hfound : parts[position]? = some cells) (hheight : cells.length = height) :
    cellsAt (rowsOf height parts) position = cells := by
  subst hheight
  refine List.ext_getElem (by simp [cellsAt, rowsOf]) fun k hk hk' => ?_
  simp [cellsAt, rowsOf, hfound, hk']

variable {columns : List String} {rows : List (List Cell)}

/-- A table that is made of rows has as many. -/
@[simp]
theorem length_rows_of_rows : (ofRows columns rows).rows.length = rows.length := by
  simp [ofRows, rowsOf]

/-- A table that is made of rows has their columns, each brought to one kind. -/
theorem column_of_rows {name : String} (hname : name ∈ columns) :
    (ofRows columns rows).column name =
      Column.settle (cellsAt rows (columns.idxOf name)) := by
  have hposition : columns.idxOf name < columns.length := List.idxOf_lt_length_of_mem hname
  refine cells_at_rows_of ?_ ?_
  · simp [ofRows, List.getElem?_range hposition]
  · simp [cellsAt]

/-- A table that is made of one row has its cells as columns. -/
theorem column_of_row {name : String} (hname : name ∈ columns) (row : List Cell) :
    (ofRows columns [row]).column name = [row.getD (columns.idxOf name) .missing] :=
  (column_of_rows hname).trans (Column.settle_singleton _)

/-- A table that is made of rows has these rows if every column stays as it is. -/
theorem rows_of_settled (hwidth : ∀ row ∈ rows, row.length = columns.length)
    (hsettled : ∀ position < columns.length,
      Column.settle (cellsAt rows position) = cellsAt rows position) :
    (ofRows columns rows).rows = rows := by
  have hcolumns : (List.range columns.length).map (fun position =>
      Column.settle (cellsAt rows position)) = (List.range columns.length).map (cellsAt rows) :=
    List.map_congr_left fun position hposition => hsettled position (List.mem_range.mp hposition)
  rw [ofRows, hcolumns]
  refine List.ext_getElem (by simp [rowsOf]) fun k hk hk' => ?_
  refine List.ext_getElem ?_ fun position hposition hposition' => ?_
  · simp [rowsOf, hwidth rows[k] (List.getElem_mem hk')]
  · simp [rowsOf, cellsAt, hk', hposition']

/-- A table that is made of one row has this row. -/
theorem of_rows_singleton {row : List Cell} (hwidth : row.length = columns.length) :
    ofRows columns [row] = { columns, rows := [row], message := none } := by
  have hrows : (ofRows columns [row]).rows = [row] :=
    rows_of_settled (List.forall_mem_singleton.mpr hwidth) fun _ _ => Column.settle_singleton _
  exact congrArg (fun rows => ({ columns, rows, message := none } : Table)) hrows

/-- A table that is made of rows has these rows if every column is of integers or of cells that stay
the same among floating-point numbers. -/
theorem rows_of_rows (hwidth : ∀ row ∈ rows, row.length = columns.length)
    (hkinds : ∀ position < columns.length,
      (∀ row ∈ rows, ∃ n, row.getD position .missing = .int n) ∨
        ∀ row ∈ rows,
          (row.getD position .missing).toFloat = row.getD position .missing) :
    (ofRows columns rows).rows = rows :=
  rows_of_settled hwidth fun position hposition => Column.settle_of_kind
    ((hkinds position hposition).imp List.forall_mem_map.mpr List.forall_mem_map.mpr)

/-- The rows of a table that is made of rows are these, one by one: a cell stays as it is or is
brought among floating-point numbers, and stays in a column of integers. -/
theorem rows_settled :
    List.Forall₂ (fun row settled => ∀ name ∈ columns,
        ((ofRows columns rows).entry settled name = row.getD (columns.idxOf name) .missing ∨
          (ofRows columns rows).entry settled name =
            (row.getD (columns.idxOf name) .missing).toFloat) ∧
        ((∀ other ∈ rows, ∃ n, other.getD (columns.idxOf name) .missing = .int n) →
          (ofRows columns rows).entry settled name = row.getD (columns.idxOf name) .missing))
      rows (ofRows columns rows).rows := by
  refine List.forall₂_iff_get.mpr ⟨length_rows_of_rows.symm, fun k hk hk' name hname => ?_⟩
  have hcell {f : Cell → Cell}
      (hcolumn : Column.settle (cellsAt rows (columns.idxOf name)) =
        (cellsAt rows (columns.idxOf name)).map f) :
      (ofRows columns rows).entry (ofRows columns rows).rows[k] name =
        f (rows[k].getD (columns.idxOf name) .missing) := by
    have hget := congrArg (·[k]?) ((column_of_rows hname).trans hcolumn)
    simpa [column, cellsAt, entry, hk, hk'] using hget
  refine ⟨(Column.settle_cases _).imp (fun hcolumn => ?_) hcell, ?_⟩
  · exact @hcell id (hcolumn.trans (List.map_id _).symm)
  · intro hints
    have hcolumn := Column.settle_of_kind (.inl (List.forall_mem_map.mpr hints))
    exact @hcell id (hcolumn.trans (List.map_id _).symm)

/-- A table of rows, or of a message, is made of the rows if it has any. -/
theorem of_rows_of_mem {message : String} {row : List Cell}
    (hrow : row ∈ (ofRowsOr columns message rows).rows) :
    ofRowsOr columns message rows = ofRows columns rows := by
  unfold ofRowsOr at hrow ⊢
  split at hrow
  · cases hrow
  · next hsome => exact if_neg hsome

/-- A table of rows, or of a message, has these rows if every column is of integers or of cells that
stay the same among floating-point numbers. -/
theorem rows_of_rows_or {message : String} (hwidth : ∀ row ∈ rows, row.length = columns.length)
    (hkinds : ∀ position < columns.length,
      (∀ row ∈ rows, ∃ n, row.getD position .missing = .int n) ∨
        ∀ row ∈ rows,
          (row.getD position .missing).toFloat = row.getD position .missing) :
    (ofRowsOr columns message rows).rows = rows := by
  unfold ofRowsOr
  split
  · next hnone => exact (List.isEmpty_iff.mp hnone).symm
  · exact rows_of_rows hwidth hkinds

end Table

end SparkLog
