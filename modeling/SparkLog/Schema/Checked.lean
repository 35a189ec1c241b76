/-!
# Checked values

The outcome of fitting a value into a declared shape: the value, or how many single faults it
has. Parts are checked side by side, so that the faults of all of them are counted.
-/

namespace SparkLog

/-- A value that fits its declared shape, or the number of faults. -/
inductive Checked (α : Type) where
  | ok (value : α)
  | faults (count : Nat)
  deriving DecidableEq, Repr

namespace Checked

/-- Apply a checked function to a checked argument; the faults of both are added. -/
def apply {α β : Type} : Checked (α → β) → Checked α → Checked β
  | .ok f, .ok a => .ok (f a)
  | .ok _, .faults n => .faults n
  | .faults m, .ok _ => .faults m
  | .faults m, .faults n => .faults (m + n)

instance : Applicative Checked where
  pure := .ok
  seq f x := apply f (x ())

/-- The one fault of a value that cannot be read. -/
def fault {α : Type} : Checked α :=
  .faults 1

/-- A value that was read, or one fault. -/
def ofOption {α : Type} : Option α → Checked α
  | some a => .ok a
  | none => fault

/-- Check every item of a list; the faults of all items are added. -/
def all {α β : Type} (check : α → Checked β) : List α → Checked (List β)
  | [] => .ok []
  | a :: rest => apply (apply (.ok List.cons) (check a)) (all check rest)

end Checked

end SparkLog
