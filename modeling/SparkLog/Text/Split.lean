/-!
# Pieces of a text
-/

namespace SparkLog.Text

/-- The pieces of a text between separators; a text without a separator is one piece. -/
def pieces (separator : Char) : List Char → List (List Char)
  | [] => [[]]
  | c :: rest =>
    if c = separator then [] :: pieces separator rest
    else
      match pieces separator rest with
      | piece :: others => (c :: piece) :: others
      | [] => [[c]]

end SparkLog.Text
