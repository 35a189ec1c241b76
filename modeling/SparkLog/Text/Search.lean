/-!
# Looking for a text in a text
-/

namespace SparkLog.Text

/-- Whether `word` stands somewhere in a text. -/
def occurs (word : List Char) : List Char → Bool
  | [] => word.isEmpty
  | c :: rest => word.isPrefixOf (c :: rest) || occurs word rest

/-- Whether a text contains a word. -/
def contains (text word : String) : Bool :=
  occurs word.toList text.toList

/-- Whether a text begins with a word. -/
def beginsWith (text word : String) : Bool :=
  word.toList.isPrefixOf text.toList

/-- Whether a text ends in a word. -/
def endsIn (text word : String) : Bool :=
  word.toList.isSuffixOf text.toList

end SparkLog.Text
