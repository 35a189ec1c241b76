import SparkLog.Number.Binary64
import SparkLog.Failure

/-!
# Payloads

The content of an event as it stands in the log: any exchange value. The fields of an object keep
the order in which they were written. Equality of payloads is decided by recursion on both.
-/

namespace SparkLog

/-- A value of an exchange document. -/
inductive Payload where
  | null
  | bool (value : Bool)
  | int (value : Int)
  | float (value : Binary64)
  | text (value : String)
  | list (items : List Payload)
  | object (fields : List (String × Payload))
  deriving Inhabited

/-- The fields of an object. -/
abbrev Fields := List (String × Payload)

namespace Payload

mutual

/-- Whether two payloads are the same tree. -/
def same : Payload → Payload → Bool
  | .null, .null => true
  | .bool a, .bool b => a == b
  | .int a, .int b => a == b
  | .float a, .float b => decide (a = b)
  | .text a, .text b => a == b
  | .list as, .list bs => sameItems as bs
  | .object as, .object bs => sameFields as bs
  | _, _ => false

/-- Whether two lists of payloads are the same, item by item. -/
def sameItems : List Payload → List Payload → Bool
  | [], [] => true
  | a :: as, b :: bs => same a b && sameItems as bs
  | _, _ => false

/-- Whether two lists of fields are the same, field by field. -/
def sameFields : List (String × Payload) → List (String × Payload) → Bool
  | [], [] => true
  | (j, a) :: as, (k, b) :: bs => j == k && same a b && sameFields as bs
  | _, _ => false

end

mutual

/-- The comparison of payloads decides equality. -/
theorem same_iff : ∀ a b : Payload, same a b = true ↔ a = b
  | .null, b => by cases b <;> simp [same]
  | .bool a, b => by cases b <;> simp [same]
  | .int a, b => by cases b <;> simp [same]
  | .float a, b => by cases b <;> simp [same]
  | .text a, b => by cases b <;> simp [same]
  | .list as, b => by
    cases b with
    | list bs => simpa [same] using sameItems_iff as bs
    | _ => simp [same]
  | .object as, b => by
    cases b with
    | object bs => simpa [same] using sameFields_iff as bs
    | _ => simp [same]

/-- The comparison of lists of payloads decides equality. -/
theorem sameItems_iff : ∀ as bs : List Payload, sameItems as bs = true ↔ as = bs
  | [], [] => by simp [sameItems]
  | [], _ :: _ => by simp [sameItems]
  | _ :: _, [] => by simp [sameItems]
  | a :: as, b :: bs => by simp [sameItems, same_iff a b, sameItems_iff as bs]

/-- The comparison of lists of fields decides equality. -/
theorem sameFields_iff :
    ∀ as bs : List (String × Payload), sameFields as bs = true ↔ as = bs
  | [], [] => by simp [sameFields]
  | [], _ :: _ => by simp [sameFields]
  | _ :: _, [] => by simp [sameFields]
  | (j, a) :: as, (k, b) :: bs => by
    simp [sameFields, same_iff a b, sameFields_iff as bs, and_assoc]

end

/-- Equality of payloads is decidable. -/
instance : DecidableEq Payload := fun a b =>
  decidable_of_iff (same a b = true) (same_iff a b)

/-- The kind of a payload. -/
def shape : Payload → Shape
  | .null => .null
  | .bool _ => .bool
  | .int _ => .int
  | .float _ => .float
  | .text _ => .text
  | .list _ => .list
  | .object _ => .object

/-- An optional value as a payload, null where it is absent. -/
def ofOption {α : Type} (f : α → Payload) : Option α → Payload
  | some a => f a
  | none => .null

/-- Whether a payload counts as present: null, false, zero and everything empty do not. -/
def isTruthy : Payload → Bool
  | .null => false
  | .bool b => b
  | .int n => n != 0
  | .float x => !x.isZero
  | .text s => s != ""
  | .list items => !items.isEmpty
  | .object fields => !fields.isEmpty

/-- The payload itself if it counts as present, another one otherwise. -/
def orElse (p other : Payload) : Payload :=
  if p.isTruthy then p else other

end Payload

namespace Fields

/-- The value of a field. -/
def get? (fields : Fields) (key : String) : Option Payload :=
  fields.lookup key

/-- Whether there is a field of that name. -/
def has (fields : Fields) (key : String) : Bool :=
  (fields.get? key).isSome

/-- The value of a field, or a default where the field is absent. -/
def getD (fields : Fields) (key : String) (default : Payload) : Payload :=
  (fields.get? key).getD default

/-- The value of a field, null where the field is absent. -/
def find (fields : Fields) (key : String) : Payload :=
  fields.getD key .null

/-- Set a field: a new one goes to the end, an old one keeps its place. -/
def set (fields : Fields) (key : String) (value : Payload) : Fields :=
  match fields with
  | [] => [(key, value)]
  | (k, v) :: rest => if k = key then (k, value) :: rest else (k, v) :: set rest key value

end Fields

namespace Payload

/-- The fields of an object; nothing else can be looked into by key. -/
def fields : Payload → Except Failure Fields
  | .object fields => .ok fields
  | other => .error (.noOperation other.shape "get")

/-- The items that going through a payload meets: those of a list, the characters of a text, the
keys of an object. -/
def items : Payload → Except Failure (List Payload)
  | .list items => .ok items
  | .text s => .ok (s.toList.map fun c => .text (String.singleton c))
  | .object fields => .ok (fields.map fun field => .text field.1)
  | other => .error (.notIterable other.shape)

end Payload

end SparkLog
