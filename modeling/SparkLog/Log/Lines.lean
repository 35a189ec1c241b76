import SparkLog.Text.Blank
import SparkLog.Text.Split

/-!
# Lines of a log

A log may end its lines in any of the three usual ways. Blank lines and padding carry nothing.
-/

namespace SparkLog.Log

/-- The text with every line end written as a single line feed. -/
def unifyLineEnds : List Char → List Char
  | '\r' :: '\n' :: rest => '\n' :: unifyLineEnds rest
  | '\r' :: rest => '\n' :: unifyLineEnds rest
  | c :: rest => c :: unifyLineEnds rest
  | [] => []

/-- The lines that are not blank, without padding. -/
def contentLines (cs : List Char) : List (List Char) :=
  ((Text.pieces '\n' cs).map (Text.strip Text.isBlank)).filter (!·.isEmpty)

end SparkLog.Log
