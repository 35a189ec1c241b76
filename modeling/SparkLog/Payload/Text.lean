import SparkLog.Payload.Basic
import SparkLog.Decimal.Notation

/-!
# Payloads as text

A property value or an identifier that is no text is recorded by its text: a text stands for
itself, numbers are written as in listings, and text inside lists and objects is quoted.
-/

namespace SparkLog.Payload

mutual

/-- The text of a payload inside a list or an object. -/
def inner : Payload → String
  | .null => "None"
  | .bool true => "True"
  | .bool false => "False"
  | .int n => Decimal.intText n
  | .float x => x.text
  | .text s => Text.quoted s
  | .list items => "[" ++ innerItems items ++ "]"
  | .object fields => "\x7b" ++ innerFields fields ++ "\x7d"

/-- The texts of items, separated by commas. -/
def innerItems : List Payload → String
  | [] => ""
  | [p] => inner p
  | p :: rest => inner p ++ ", " ++ innerItems rest

/-- The texts of fields, separated by commas. -/
def innerFields : List (String × Payload) → String
  | [] => ""
  | [(key, p)] => Text.quoted key ++ ": " ++ inner p
  | (key, p) :: rest => Text.quoted key ++ ": " ++ inner p ++ ", " ++ innerFields rest

end

/-- The text of a payload. Integers are written in full, however many digits they have. -/
def render : Payload → String
  | .text s => s
  | other => other.inner

end SparkLog.Payload
