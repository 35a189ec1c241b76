import SparkLog.Payload.Basic
import SparkLog.Decimal.Notation

/-!
# Writing payloads

Payloads as exchange documents in ASCII: on one line without any space, or with every item and
field on a line of its own.
-/

namespace SparkLog.Payload

/-- A sixteen-bit unit as an escape. -/
def unitEscape (n : Nat) : List Char :=
  '\\' :: 'u' :: Text.hexChars 4 n

/-- One character of a written text. -/
def writeChar (c : Char) : List Char :=
  match c with
  | '"' => ['\\', '"']
  | '\\' => ['\\', '\\']
  | '\n' => ['\\', 'n']
  | '\r' => ['\\', 'r']
  | '\t' => ['\\', 't']
  | '\x08' => ['\\', 'b']
  | '\x0c' => ['\\', 'f']
  | _ =>
    if 32 ≤ c.toNat ∧ c.toNat < 127 then [c]
    else if c.toNat < 0x10000 then unitEscape c.toNat
    else
      let n := c.toNat - 0x10000
      unitEscape (0xD800 + n / 0x400) ++ unitEscape (0xDC00 + n % 0x400)

/-- A written text. -/
def writeText (s : String) : String :=
  String.ofList ('"' :: (s.toList.flatMap writeChar ++ ['"']))

/-- A written floating-point number. -/
def writeFloat : Binary64 → String
  | .nan => "NaN"
  | .infinite false => "Infinity"
  | .infinite true => "-Infinity"
  | x => x.text

mutual

/-- A payload on one line. -/
def write : Payload → String
  | .null => "null"
  | .bool true => "true"
  | .bool false => "false"
  | .int n => Decimal.intText n
  | .float x => writeFloat x
  | .text s => writeText s
  | .list items => "[" ++ ",".intercalate (writeItems items) ++ "]"
  | .object fields => "\x7b" ++ ",".intercalate (writeFields fields) ++ "\x7d"

/-- The items of a list on one line. -/
def writeItems : List Payload → List String
  | [] => []
  | p :: rest => write p :: writeItems rest

/-- The fields of an object on one line. -/
def writeFields : List (String × Payload) → List String
  | [] => []
  | (key, p) :: rest => (writeText key ++ ":" ++ write p) :: writeFields rest

end

/-- A line break and the indentation of a level. -/
def newline (level : Nat) : String :=
  String.ofList ('\n' :: List.replicate (2 * level) ' ')

/-- Written parts in brackets, each on a line of its own; nothing between the brackets if there
are no parts. -/
def block (opening closing : String) (level : Nat) (parts : List String) : String :=
  if parts.isEmpty then opening ++ closing
  else
    opening ++ newline (level + 1) ++ ("," ++ newline (level + 1)).intercalate parts ++
      newline level ++ closing

mutual

/-- A payload with every item and field on a line of its own, inside `level` brackets. -/
def writeLines (level : Nat) : Payload → String
  | .list items => block "[" "]" level (writeItemLines (level + 1) items)
  | .object fields => block "\x7b" "\x7d" level (writeFieldLines (level + 1) fields)
  | other => write other

/-- The items of a list. -/
def writeItemLines (level : Nat) : List Payload → List String
  | [] => []
  | p :: rest => writeLines level p :: writeItemLines level rest

/-- The fields of an object. -/
def writeFieldLines (level : Nat) : List (String × Payload) → List String
  | [] => []
  | (key, p) :: rest => (writeText key ++ ": " ++ writeLines level p) :: writeFieldLines level rest

end

end SparkLog.Payload
