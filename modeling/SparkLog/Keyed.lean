/-!
# Keyed collections in order of arrival

A collection of values under keys that keeps the order in which keys arrived. A value put under a
key that is there already takes the place of the old value; the key stays as it first came. Which
keys are the same is told by a comparison, since one identifier can be written in several ways.
-/

namespace SparkLog

/-- Values under keys, in order of arrival of the keys. -/
structure Keyed (κ α : Type) where
  entries : List (κ × α)
  deriving DecidableEq

namespace Keyed

variable {κ α β : Type}

/-- The collection without entries. -/
def empty : Keyed κ α := ⟨[]⟩

instance : Inhabited (Keyed κ α) := ⟨empty⟩

/-- How many entries there are. -/
def size (table : Keyed κ α) : Nat :=
  table.entries.length

/-- The keys in order of arrival. -/
def keys (table : Keyed κ α) : List κ :=
  table.entries.map Prod.fst

/-- The values in order of arrival of their keys. -/
def values (table : Keyed κ α) : List α :=
  table.entries.map Prod.snd

/-- The value under a key that is the same as `key`. -/
def findBy? (same : κ → κ → Bool) (table : Keyed κ α) (key : κ) : Option α :=
  (table.entries.find? fun entry => same entry.1 key).map Prod.snd

/-- Put a value at the place of the first same key, or at the end. -/
def putBy (same : κ → κ → Bool) (key : κ) (value : α) : List (κ × α) → List (κ × α)
  | [] => [(key, value)]
  | entry :: rest =>
    if same entry.1 key then (entry.1, value) :: rest else entry :: putBy same key value rest

/-- Insert a value, or replace the value of the same key. -/
def insertBy (same : κ → κ → Bool) (table : Keyed κ α) (key : κ) (value : α) : Keyed κ α :=
  ⟨putBy same key value table.entries⟩

/-- The value under a key. -/
def find? [BEq κ] (table : Keyed κ α) (key : κ) : Option α :=
  table.findBy? (· == ·) key

/-- Whether a key is there. -/
def has [BEq κ] (table : Keyed κ α) (key : κ) : Bool :=
  (table.find? key).isSome

/-- Insert a value, or replace the value of the key. -/
def insert [BEq κ] (table : Keyed κ α) (key : κ) (value : α) : Keyed κ α :=
  table.insertBy (· == ·) key value

/-- Insert a value unless the key is there. -/
def insertNew [BEq κ] (table : Keyed κ α) (key : κ) (value : α) : Keyed κ α :=
  if table.has key then table else table.insert key value

/-- Change the value under a key, starting from a default where the key is not there. -/
def alter [BEq κ] (table : Keyed κ α) (key : κ) (default : α) (change : α → α) : Keyed κ α :=
  table.insert key (change ((table.find? key).getD default))

/-- Change every value. -/
def mapValues (f : κ → α → β) (table : Keyed κ α) : Keyed κ β :=
  ⟨table.entries.map fun (key, value) => (key, f key value)⟩

end Keyed

end SparkLog
