/-!
# Distinct items
-/

namespace SparkLog

/-- The items of a list, each at its first place only. -/
def distinct {α : Type} [BEq α] (items : List α) : List α :=
  items.foldl (fun seen item => if seen.contains item then seen else seen ++ [item]) []

end SparkLog
