/-!
# Excerpts

Listings show the beginning of free text. Width counts characters; a negative width leaves that
many characters out at the end.
-/

namespace SparkLog.Text

/-- How many of `length` items a width keeps. -/
def keptCount (length : Nat) (width : Int) : Nat :=
  if 0 ≤ width then min width.toNat length else length - width.natAbs

/-- The beginning of a text. -/
def excerpt (text : String) (width : Int) : String :=
  String.ofList (text.toList.take (keptCount text.length width))

end SparkLog.Text
