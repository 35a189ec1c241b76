import SparkLog.Table.Basic
import SparkLog.Decimal.Fixed
import SparkLog.Text.Excerpt

/-!
# Tables as text

A table is printed with its columns flush right, one space apart. Floating-point columns have six
places, less the zeros that all cells end in, or an exponent where they would be unreadable. The
name of a column of numbers or truth values stands one space apart.
-/

namespace SparkLog.Table

/-- How a column is printed. -/
inductive ColumnStyle where
  | ints
  | floats
  | bools
  | texts
  | mixed
  deriving DecidableEq

/-- The style of a column: by the kind of its cells, if they are all of one kind. Missing cells may
stand among texts; integers past 64 bits are printed like mixed cells. -/
def styleOf (cells : List Cell) : ColumnStyle :=
  let isInt : Cell → Bool
    | .int _ => true
    | _ => false
  let isFloat : Cell → Bool
    | .float _ => true
    | _ => false
  let isBool : Cell → Bool
    | .bool _ => true
    | _ => false
  let isText : Cell → Bool
    | .text _ => true
    | _ => false
  if cells.all isInt then
    match Column.numberKind cells {} with
    | .ints => .ints
    | _ => .mixed
  else if cells.all isFloat then .floats
  else if cells.all isBool then .bools
  else if cells.all (fun c => isText c || c.isMissing) && cells.any isText then .texts
  else .mixed

/-- Line breaks and tabs as backslash escapes. -/
def escapeBreaks (s : String) : String :=
  String.ofList <| s.toList.flatMap fun c =>
    if c = '\n' then ['\\', 'n']
    else if c = '\r' then ['\\', 'r']
    else if c = '\t' then ['\\', 't']
    else [c]

/-- The first hundred of some texts, with dots for the others. -/
def firstTexts (texts : List String) : String :=
  ", ".intercalate (if 100 < texts.length then texts.take 100 ++ ["..."] else texts)

/-- An item of a list. Lists and objects are opened up to a depth. -/
def itemText : Nat → Payload → String
  | depth + 1, .list items => "[" ++ firstTexts (items.map (itemText depth)) ++ "]"
  | depth + 1, .object fields =>
    let entries := fields.map fun (key, item) => key ++ ": " ++ itemText depth item
    "\x7b" ++ firstTexts entries ++ "\x7d"
  | _, item => item.render

/-- The items of a list; lists are opened three deep. -/
def listText (items : List Payload) : String :=
  itemText 3 (.list items)

/-- Whether a written number has a point and no exponent. -/
def hasPlainPoint (s : List Char) : Bool :=
  s.contains '.' && !s.contains 'e'

/-- Cut the zeros off that all written numbers end in; `fuel` bounds how many. -/
def trimTogether : Nat → List (List Char) → List (List Char)
  | 0, cells => cells
  | fuel + 1, cells =>
    let numbers := cells.filter hasPlainPoint
    if !numbers.isEmpty && numbers.all (·.getLast? == some '0') then
      trimTogether fuel (cells.map fun s => if hasPlainPoint s then s.dropLast else s)
    else cells

/-- A zero behind a point that ends a written number. -/
def completePoint (s : List Char) : List Char :=
  if s.getLast? = some '.' then s ++ ['0'] else s

/-- A written number without the zeros at its end, one place left at least. -/
def trimZeros (s : List Char) : List Char :=
  completePoint ((s.reverse.dropWhile (· == '0')).reverse)

/-- The cells of a floating-point column, written by `write`; no number is a missing cell. -/
def writeFloats (write : Binary64 → String) (xs : List Binary64) : List String :=
  let cells := xs.map fun x => if x.isNan then "NaN".toList else (write x).toList
  (trimTogether 10 cells).map fun s =>
    String.ofList (if hasPlainPoint s then completePoint s else s)

/-- Whether the magnitude of a number is above a quotient of integers. -/
def isAbove (x : Binary64) (num : Int) (den : Nat) : Bool :=
  Binary64.compare? x.abs (Binary64.ofRatio num den) == some .gt

/-- Whether a number is not zero and its magnitude is below a millionth. -/
def isTiny (x : Binary64) : Bool :=
  Binary64.compare? x.abs (Binary64.ofRatio 1 1000000) == some .lt && !x.isZero

/-- The cells of a floating-point column: with places, or with an exponent if some number is tiny,
or some is above a million and the cells are wide. -/
def floatColumn (xs : List Binary64) : List String :=
  let plain := writeFloats (Binary64.fixed 6) xs
  let isWide := plain.any fun s => 12 < s.length
  if xs.any isTiny || (isWide && xs.any (isAbove · 1000000 1)) then
    writeFloats (Binary64.exponential 6) xs
  else plain

/-- A cell of a column that is not of one kind. -/
def mixedCell : Cell → String
  | .missing => "None"
  | .bool true => "True"
  | .bool false => "False"
  | .int n => Decimal.intText n
  | .float .nan => "NaN"
  | .float x =>
    String.ofList ((if x.isNegative then [] else [' ']) ++ trimZeros (x.fixed 6).toList)
  | .text s => escapeBreaks s
  | .list items => escapeBreaks (listText items)

/-- The cells of a column as texts. -/
def columnTexts (style : ColumnStyle) (cells : List Cell) : List String :=
  match style with
  | .floats =>
    floatColumn <| cells.map fun
      | .float x => x
      | _ => .nan
  | .texts => cells.map fun cell => if cell.isMissing then "NaN" else mixedCell cell
  | _ => cells.map mixedCell

/-- Whether the name of a column stands one space apart. -/
def ColumnStyle.isApart : ColumnStyle → Bool
  | .ints | .floats | .bools => true
  | .texts | .mixed => false

/-- The name of a column as it is printed. -/
def headerText (isApart : Bool) (name : String) : String :=
  (if isApart then " " else "") ++ escapeBreaks name

/-- A text with spaces in front of it up to a width. -/
def padLeft (width : Nat) (s : String) : String :=
  String.ofList (List.replicate (width - s.length) ' ') ++ s

/-- The lines of a column under its header, padded to the widest one. -/
def columnLines (header : String) (texts : List String) : List String :=
  let lines := header :: texts
  let width := (lines.map String.length).foldl max 0
  lines.map (padLeft width)

/-- The names and styles of columns. -/
def columnStyles (table : Table) : List (String × ColumnStyle) :=
  table.columns.mapIdx fun position name => (name, styleOf (cellsAt table.rows position))

/-- The text of a table of rows, of which as many are printed as `limit` keeps. Of columns with the
same name the last one tells how the name stands. -/
def renderRows (table : Table) (limit : Int) : String :=
  let height := Text.keptCount table.rows.length limit
  if height = 0 then
    "Empty DataFrame\nColumns: [" ++ ", ".intercalate table.columns ++ "]\nIndex: []"
  else
    let styles := table.columnStyles
    let columns := styles.mapIdx fun position (name, style) =>
      let isApart := (styles.reverse.lookup name).any ColumnStyle.isApart
      columnLines (headerText isApart name)
        (columnTexts style ((cellsAt table.rows position).take height))
    "\n".intercalate <| (List.range (height + 1)).map fun k =>
      " ".intercalate (columns.map fun lines => lines.getD k "")

/-- The text of a table: its message, or its rows. -/
def render (table : Table) (limit : Int) : String :=
  if table.isEmpty then table.message.getD "No Data Found!" else renderRows table limit

end SparkLog.Table
