/-!
# Totals
-/

namespace SparkLog

/-- The sum of integers. -/
def total : List Int → Int
  | [] => 0
  | n :: rest => n + total rest

end SparkLog
