/-!
# Sorting by several keys
-/

namespace SparkLog

/-- Whether a list of keys is not behind another one, comparing the first keys first. -/
def lexLe : List Int → List Int → Bool
  | [], _ => true
  | _ :: _, [] => false
  | a :: as, b :: bs => a < b || (a == b && lexLe as bs)

/-- Things sorted by their keys; things with equal keys keep their order. -/
def sortByKeys {α : Type} (keys : α → List Int) (items : List α) : List α :=
  items.mergeSort fun a b => lexLe (keys a) (keys b)

end SparkLog
