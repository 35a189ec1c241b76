import SparkLog.Table.Basic
import SparkLog.Payload.Writer

/-!
# Tables for exchange

Tables as comma-separated values and as a list of records. In comma-separated values a field is
quoted only where it has to be, quotes inside it are doubled, and a missing cell is empty.
-/

namespace SparkLog.Table

/-- A field, quoted if it holds a separator, a quote or a line break. -/
def quoteField (s : String) : String :=
  let cs := s.toList
  if cs.any fun c => c == ',' || c == '"' || c == '\n' || c == '\r' then
    String.ofList ('"' :: (cs.flatMap (fun c => if c = '"' then ['"', '"'] else [c]) ++ ['"']))
  else s

/-- A cell as a field. -/
def fieldText : Cell → String
  | .missing => ""
  | .float .nan => ""
  | cell => quoteField cell.toPayload.render

/-- A record of fields. -/
def recordText (fields : List String) : String :=
  ",".intercalate fields ++ "\n"

/-- A table as comma-separated values under a line of column names. -/
def separatedValues (table : Table) : String :=
  "".intercalate (recordText (table.columns.map quoteField) ::
    table.rows.map fun row => recordText (row.map fieldText))

/-- The rows of a table as records. -/
def records (table : Table) : Payload :=
  .list (table.rows.map fun row =>
    .object (table.columns.zip (row.map Cell.toPayload)))

end SparkLog.Table
