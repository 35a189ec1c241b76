import SparkLog.Number.Word
import SparkLog.Payload.Text
import SparkLog.Payload.Arithmetic

/-!
# Tables

The answer to a query is a table: named columns over rows of cells, or a message in place of rows.
Numbers of one column are of one kind: if a cell is missing or a floating-point number, all its
integers become floating-point numbers, unless some integer is too large for that.
-/

namespace SparkLog

/-- A cell of a table. A cell that is missing in a column of floating-point numbers is no number. -/
inductive Cell where
  | missing
  | bool (value : Bool)
  | int (value : Int)
  | float (value : Binary64)
  | text (value : String)
  | list (items : List Payload)
  deriving DecidableEq

namespace Cell

/-- An optional value as a cell. -/
def ofOption {α : Type} (f : α → Cell) : Option α → Cell
  | some a => f a
  | none => .missing

/-- The cell as a payload; a missing cell is null. -/
def toPayload : Cell → Payload
  | .missing => .null
  | .bool b => .bool b
  | .int n => .int n
  | .float .nan => .null
  | .float x => .float x
  | .text s => .text s
  | .list items => .list items

/-- Whether nothing stands in a cell. -/
def isMissing : Cell → Bool
  | .missing | .float .nan => true
  | _ => false

/-- Whether a cell may stand in a column of numbers. -/
def isNumeric : Cell → Bool
  | .missing | .int _ | .float _ => true
  | _ => false

/-- The cell in a column of floating-point numbers. -/
def toFloat : Cell → Cell
  | .int n => .float (Binary64.ofRatio n 1)
  | .missing => .float .nan
  | other => other

end Cell

namespace Column

/-- What was seen of a column of numbers: a missing cell, a floating-point number, a negative
integer, an integer past the signed range of 64 bits. -/
structure Sight where
  missing : Bool := false
  float : Bool := false
  negative : Bool := false
  large : Bool := false

/-- The kinds of numbers that a column can hold. -/
inductive NumberKind where
  | ints
  | floats
  | anything
  deriving DecidableEq

/-- Whether integers that were seen have no common type of 64 bits. -/
def Sight.tooWide (sight : Sight) (n : Int) : Bool :=
  (sight.large && sight.negative) || Word.count ≤ n || n < -Word.half

/-- The kind of a column of numbers. An integer that no type of 64 bits holds together with those
before it leaves the column as it is, unless a cell was missing before; so does, wherever it stands,
an integer past the floating-point range. -/
def numberKind : List Cell → Sight → NumberKind
  | [], sight => if sight.missing || sight.float then .floats else .ints
  | .int n :: rest, sight =>
    if (Binary64.ofInt? n).isNone then .anything
    else if sight.missing then numberKind rest sight
    else
      let sight :=
        { sight with negative := sight.negative || n < 0, large := sight.large || Word.half ≤ n }
      if sight.tooWide n then .anything else numberKind rest sight
  | .float _ :: rest, sight => numberKind rest { sight with float := true }
  | _ :: rest, sight => numberKind rest { sight with missing := true }

/-- Bring the numbers of a column to one kind. A column of anything but numbers, and one without
any cell that is not missing, stays as it is. -/
def settle (cells : List Cell) : List Cell :=
  if cells.all Cell.isNumeric && cells.any (· != .missing) && numberKind cells {} == .floats then
    cells.map Cell.toFloat
  else cells

end Column

/-- A table: the names of its columns, its rows, and the message that stands for no rows. -/
structure Table where
  columns : List String
  rows : List (List Cell)
  message : Option String
  deriving DecidableEq

namespace Table

/-- A table without rows and with a message instead. -/
def noData (columns : List String) (message : String) : Table :=
  { columns, rows := [], message := some message }

/-- Whether a table has no cells. -/
def isEmpty (table : Table) : Bool :=
  table.rows.isEmpty || table.columns.isEmpty

/-- The cells of a column, by its position. -/
def cellsAt (rows : List (List Cell)) (position : Nat) : List Cell :=
  rows.map fun row => row.getD position .missing

/-- Rows from the cells of columns. -/
def rowsOf (height : Nat) (columns : List (List Cell)) : List (List Cell) :=
  (List.range height).map fun k => columns.map fun cells => cells.getD k .missing

/-- A table of rows, the numbers of each column brought to one kind. -/
def ofRows (columns : List String) (rows : List (List Cell)) : Table :=
  let settled := (List.range columns.length).map fun position =>
    Column.settle (cellsAt rows position)
  { columns, rows := rowsOf rows.length settled, message := none }

/-- A table of rows, or a message if there are none. -/
def ofRowsOr (columns : List String) (message : String) (rows : List (List Cell)) : Table :=
  if rows.isEmpty then noData columns message else ofRows columns rows

/-- The types that a part of a column can have. -/
inductive PartType where
  | signed
  | unsigned
  | floats
  | anything
  deriving DecidableEq

/-- The type of a part of a column. -/
def PartType.ofCells (cells : List Cell) : PartType :=
  let isFloat : Cell → Bool
    | .float _ => true
    | _ => false
  let isInt : Cell → Bool
    | .int _ => true
    | _ => false
  let isLarge : Cell → Bool
    | .int n => Word.half ≤ n
    | _ => false
  if cells.all isFloat then .floats
  else if cells.all isInt then
    match Column.numberKind cells {} with
    | .ints => if cells.any isLarge then .unsigned else .signed
    | _ => .anything
  else .anything

/-- The parts of a column in tables that are put below each other: parts of numbers of different
types become floating-point numbers; otherwise every part stays as it is. -/
def joinColumn (parts : List (List Cell)) : List Cell :=
  let types := parts.map PartType.ofCells
  let cells := parts.flatten
  if types.contains .anything then cells
  else if types.all (· == .signed) || types.all (· == .unsigned) then cells
  else cells.map Cell.toFloat

/-- Tables of the same columns below each other. -/
def concat (columns : List String) (tables : List Table) : Table :=
  let joined := (List.range columns.length).map fun position =>
    joinColumn (tables.map fun table => cellsAt table.rows position)
  { columns, rows := rowsOf (tables.flatMap Table.rows).length joined, message := none }

end Table

end SparkLog
