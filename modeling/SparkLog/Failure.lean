import SparkLog.Text.Quoted
import SparkLog.Text.Excerpt

/-!
# Failures

Everything that can stop the handling of an event, a query or a run, by cause. `Failure.message`
words each cause once; `Failure.isSkippable` tells the causes that a record with an unexpected
shape gives rise to, for which a tolerant run leaves out that record and goes on.
-/

namespace SparkLog

/-- The kinds of value that an exchange document holds. -/
inductive Shape where
  | null
  | bool
  | int
  | float
  | text
  | list
  | object
  deriving DecidableEq, Repr

namespace Shape

/-- The word for a kind of value in messages. -/
def word : Shape → String
  | .null => "NoneType"
  | .bool => "bool"
  | .int => "int"
  | .float => "float"
  | .text => "str"
  | .list => "list"
  | .object => "dict"

end Shape

/-- The operators that combine two values of a document. -/
inductive Operator where
  | plus
  | minus
  | divide
  | floorDivide
  deriving DecidableEq, Repr

/-- The sign of an operator. -/
def Operator.sign : Operator → String
  | .plus => "+"
  | .minus => "-"
  | .divide => "/"
  | .floorDivide => "//"

/-- What can be wrong with a text that should be an exchange document. -/
inductive SyntaxFault where
  | byteOrderMark
  | value
  | comma
  | colon
  | key
  | extra
  | unterminated
  | control
  | escape
  | codePoint
  deriving DecidableEq, Repr

/-- The wording of a fault, without its place. -/
def SyntaxFault.message : SyntaxFault → String
  | .byteOrderMark => "Unexpected UTF-8 BOM (decode using utf-8-sig)"
  | .value => "Expecting value"
  | .comma => "Expecting ',' delimiter"
  | .colon => "Expecting ':' delimiter"
  | .key => "Expecting property name enclosed in double quotes"
  | .extra => "Extra data"
  | .unterminated => "Unterminated string starting at"
  | .control => "Invalid control character at"
  | .escape => "Invalid \\escape"
  | .codePoint => "Invalid \\uXXXX escape"

/-- A place in a text: line and column from one, offset from zero. -/
structure Place where
  line : Nat
  column : Nat
  offset : Nat
  deriving DecidableEq, Repr

/-- The causes of failure. -/
inductive Failure where
  /-- An object lacks a key. -/
  | missingKey (key : String)
  /-- An operator does not combine two kinds of value. -/
  | operands (operator : Operator) (left right : Shape)
  /-- A text or a list is joined to something else. -/
  | concatenation (left right : Shape)
  /-- A list or an object stands where a key is needed. -/
  | notAKey (shape : Shape)
  /-- Something that has no items is gone through item by item. -/
  | notIterable (shape : Shape)
  /-- Something that is neither a number nor a text is read as an integer. -/
  | notNumeric (shape : Shape)
  /-- A value lacks an operation. -/
  | noOperation (shape : Shape) (operation : String)
  /-- A text is no integer. -/
  | notAnInteger (text : String)
  /-- An integer is written with more digits than are read. -/
  | tooManyDigits (count : Nat)
  /-- No number is read as an integer. -/
  | nanToInteger
  /-- An infinity is read as an integer. -/
  | infinityToInteger
  /-- An integer is past the floating-point range. -/
  | integerTooLarge
  /-- A quotient of integers is past the floating-point range. -/
  | quotientTooLarge
  /-- A pair has too few members. -/
  | tooFewMembers (expected got : Nat)
  /-- A pair has too many members. -/
  | tooManyMembers (expected : Nat)
  /-- An event record has no name. -/
  | unnamedEvent
  /-- A source of properties is none of the known ones. -/
  | unknownSource (source : String) (known : List String)
  /-- A record does not fit its declared fields, with the number of single faults. -/
  | invalid (record : String) (faults : Nat)
  /-- A value has no decimal on the wanted grid. -/
  | notOnGrid
  /-- A text is no exchange document. -/
  | malformed (fault : SyntaxFault) (place : Place)
  /-- A list or an object stands inside more others than a reader opens. -/
  | tooDeep (shape : Shape)
  /-- A pattern cannot be read. -/
  | badPattern
  /-- A pattern asks for more repetitions than are counted. -/
  | tooManyRepetitions
  /-- A store is queried before it is closed. -/
  | notFinalized (application : Int)
  /-- A file does not exist. -/
  | noSuchFile (path : String)
  /-- A file stands where a directory is to be made. -/
  | fileExists (path : String)
  /-- A file stands inside the path of another file. -/
  | notADirectory (path : String)
  /-- A directory stands where a file is read or written. -/
  | isADirectory (path : String)
  deriving DecidableEq, Repr

namespace Failure

/-- Words in parentheses, each in quotes. -/
def wordList (words : List String) : String :=
  "(" ++ ", ".intercalate (words.map Text.quoted) ++ ")"

/-- The wording of a failure. -/
def message : Failure → String
  | .missingKey key => Text.quoted key
  | .operands operator left right =>
    s!"unsupported operand type(s) for {operator.sign}: '{left.word}' and '{right.word}'"
  | .concatenation left right =>
    s!"can only concatenate {left.word} (not \"{right.word}\") to {left.word}"
  | .notAKey shape => s!"unhashable type: '{shape.word}'"
  | .notIterable shape => s!"'{shape.word}' object is not iterable"
  | .notNumeric shape =>
    "int() argument must be a string, a bytes-like object or a real number, not " ++
      s!"'{shape.word}'"
  | .noOperation shape operation =>
    s!"'{shape.word}' object has no attribute '{operation}'"
  | .notAnInteger text =>
    "invalid literal for int() with base 10: " ++ Text.excerpt (Text.quoted text) 200
  | .tooManyDigits count =>
    s!"Exceeds the limit ({Decimal.intText Decimal.digitLimit} digits) for integer string " ++
      s!"conversion: value has {Decimal.intText count} digits; use " ++
      "sys.set_int_max_str_digits() to increase the limit"
  | .nanToInteger => "cannot convert float NaN to integer"
  | .infinityToInteger => "cannot convert float infinity to integer"
  | .integerTooLarge => "int too large to convert to float"
  | .quotientTooLarge => "integer division result too large for a float"
  | .tooFewMembers expected got =>
    s!"not enough values to unpack (expected {Decimal.intText expected}, got {Decimal.intText got})"
  | .tooManyMembers expected =>
    s!"too many values to unpack (expected {Decimal.intText expected})"
  | .unnamedEvent => "Event record without an 'Event' field"
  | .unknownSource source known =>
    s!"Unknown property source {Text.quoted source}, expected one of {wordList known}"
  | .invalid record faults =>
    s!"{Decimal.intText faults} validation error" ++ (if faults = 1 then "" else "s") ++
      s!" for {record}"
  | .notOnGrid => "[<class 'decimal.InvalidOperation'>]"
  | .malformed fault place =>
    s!"{fault.message}: line {Decimal.intText place.line} column {Decimal.intText place.column} " ++
      s!"(char {Decimal.intText place.offset})"
  | .tooDeep shape =>
    "maximum recursion depth exceeded while decoding a JSON " ++
      (if shape = .list then "array" else "object") ++ " from a unicode string"
  | .badPattern => "the pattern cannot be read"
  | .tooManyRepetitions => "the repetition number is too large"
  | .notFinalized application =>
    s!"Application {Decimal.intText application} is still being ingested; " ++
      "run correlation and plan analysis before querying it"
  | .noSuchFile path => "[Errno 2] No such file or directory: " ++ Text.quoted path
  | .fileExists path => "[Errno 17] File exists: " ++ Text.quoted path
  | .notADirectory path => "[Errno 20] Not a directory: " ++ Text.quoted path
  | .isADirectory path => "[Errno 21] Is a directory: " ++ Text.quoted path

/-- Whether a tolerant run leaves out the record at hand and goes on. Numbers past the range of a
conversion are not of this kind. -/
def isSkippable : Failure → Bool
  | .missingKey _ | .operands .. | .concatenation .. | .notAKey _ | .notIterable _
  | .notNumeric _ | .noOperation .. | .notAnInteger _ | .tooManyDigits _ | .nanToInteger
  | .tooFewMembers .. | .tooManyMembers _ | .unnamedEvent | .unknownSource .. | .invalid .. => true
  | _ => false

/-- Whether a text is no exchange document. -/
def isMalformed : Failure → Bool
  | .malformed .. => true
  | _ => false

end Failure

end SparkLog
