import SparkLog.Settings
import SparkLog.Text.Search

/-!
# Arguments

What a command line asks for. Options may be cut short as long as they are told apart, take their
value from the next argument or behind an equals sign, and may stand before or behind the logs;
the logs stand together. Everything behind two dashes is a log. A wrong command line ends the
program, as does asking for help.
-/

namespace SparkLog.CommandLine

/-- The reports that can be asked for. -/
inductive Mode where
  | profiling
  | qualification
  deriving DecidableEq, Repr

/-- The name of a report. -/
def Mode.name : Mode → String
  | .profiling => "profiling"
  | .qualification => "qualification"

/-- What a command line asks for. -/
structure Arguments where
  logs : List String := []
  mode : Mode := .profiling
  directory : String := "output"
  rows : Int := 1000
  graphs : Bool := false
  workers : Int := 1
  strict : Bool := false
  progress : Bool := false
  verbose : Bool := false
  deriving DecidableEq

/-- Why a command line ends the program. -/
inductive Stop where
  | help
  | usage
  deriving DecidableEq, Repr

/-- The status with which the program ends. -/
def Stop.status : Stop → Nat
  | .help => 0
  | .usage => 2

/-- The options. -/
inductive Flag where
  | help
  | mode
  | output
  | rows
  | graphs
  | workers
  | strict
  | progress
  | verbose
  deriving DecidableEq, Repr

namespace Flag

/-- The long names of the options. -/
def longNames : List (String × Flag) :=
  [ ("--help", .help), ("--mode", .mode), ("--output", .output), ("--num-output-rows", .rows),
    ("--generate-dot", .graphs), ("--max-workers", .workers), ("--strict", .strict),
    ("--progress", .progress), ("--verbose", .verbose) ]

/-- The short names of the options. -/
def shortNames : List (Char × Flag) :=
  [('h', .help), ('v', .verbose)]

/-- Whether an option takes a value. -/
def takesValue : Flag → Bool
  | .mode | .output | .rows | .workers => true
  | _ => false

end Flag

/-- What an argument is: a plain value, an option with the value behind its equals sign or the
letters behind its own, the mark behind which all is plain, or no option of this program. -/
inductive Token where
  | plain (text : String)
  | long (option : Flag) (value : Option String)
  | short (letters : List Char)
  | separator
  | ambiguous
  | unknown
  deriving DecidableEq

/-- Split a text at its first equals sign. -/
def splitEquals (cs : List Char) : List Char × Option (List Char) :=
  match cs.dropWhile (· != '=') with
  | _ :: value => (cs.takeWhile (· != '='), some value)
  | [] => (cs, none)

/-- Whether an argument that begins with a dash is a number. -/
def isNegativeNumber (digits : List Char) : Bool :=
  let isDigit (c : Char) : Bool := '0' ≤ c && c ≤ '9'
  let fraction := digits.dropWhile isDigit
  match fraction with
  | [] => !digits.isEmpty
  | '.' :: places => !places.isEmpty && places.all isDigit
  | _ => false

/-- What an option with a long name is. -/
def longToken (cs : List Char) : Token :=
  let (name, value) := splitEquals cs
  let value := value.map String.ofList
  match Flag.longNames.lookup (String.ofList name) with
  | some option => .long option value
  | none =>
    match Flag.longNames.filter fun entry => name.isPrefixOf entry.1.toList with
    | [(_, option)] => .long option value
    | [] => if cs.contains ' ' then .plain (String.ofList cs) else .unknown
    | _ => .ambiguous

/-- What an argument is. -/
def Token.ofText (text : String) : Token :=
  match text.toList with
  | ['-', '-'] => .separator
  | '-' :: '-' :: rest => longToken ('-' :: '-' :: rest)
  | '-' :: letter :: rest =>
    if (Flag.shortNames.lookup letter).isSome then .short (letter :: rest)
    else if isNegativeNumber (letter :: rest) || rest.contains ' ' || letter = ' ' then .plain text
    else .unknown
  | _ => .plain text

/-- The tokens of a command line; behind the separator all arguments are plain. -/
def tokens : List String → List Token
  | [] => []
  | text :: rest =>
    match Token.ofText text with
    | .separator => .separator :: rest.map .plain
    | token => token :: tokens rest

/-- Arguments with the value of an option. -/
def setValue (arguments : Arguments) (option : Flag) (value : String) :
    Except Stop Arguments :=
  let number (set : Int → Arguments) : Except Stop Arguments :=
    match Decimal.integer? value with
    | some n => .ok (set n)
    | none => .error .usage
  match option with
  | .mode =>
    match value with
    | "profiling" => .ok { arguments with mode := .profiling }
    | "qualification" => .ok { arguments with mode := .qualification }
    | _ => .error .usage
  | .output => .ok { arguments with directory := value }
  | .rows => number fun n => { arguments with rows := n }
  | .workers => number fun n => { arguments with workers := n }
  | _ => .error .usage

/-- Arguments with an option that takes no value. -/
def setFlag (arguments : Arguments) : Flag → Except Stop Arguments
  | .help => .error .help
  | .graphs => .ok { arguments with graphs := true }
  | .strict => .ok { arguments with strict := true }
  | .progress => .ok { arguments with progress := true }
  | .verbose => .ok { arguments with verbose := true }
  | _ => .error .usage

/-- The options whose letters stand together behind one dash, up to a letter that is none, and
whether there is such a letter. No value and no second dash may follow a letter. -/
def readLetters : List Char → Except Stop (List Flag × Bool)
  | [] => .ok ([], false)
  | letter :: rest =>
    match Flag.shortNames.lookup letter with
    | none => .ok ([], true)
    | some option =>
      if rest.head? == some '=' || rest.head? == some '-' then .error .usage
      else do
        let (options, leftOver) ← readLetters rest
        return (option :: options, leftOver)

/-- A command line in the course of reading: the arguments so far, whether the logs were read, and
whether something was left over. -/
structure Reading where
  arguments : Arguments := {}
  logsRead : Bool := false
  leftOver : Bool := false

namespace Reading

/-- Read one more log. The run of logs ends where an option follows. -/
def takeLog (reading : Reading) (text : String) (rest : List Token) : Reading :=
  if reading.logsRead then { reading with leftOver := true }
  else
    let arguments := reading.arguments
    { reading with
      arguments := { arguments with logs := arguments.logs ++ [text] }
      logsRead := match rest with
        | .plain _ :: _ | .separator :: _ => false
        | _ => true }

end Reading

/-- Read the tokens of a command line. Plain arguments that follow each other are the logs; a
second run of them is left over. -/
def readTokens : List Token → Reading → Except Stop Reading
  | [], reading => .ok reading
  | .plain text :: rest, reading => readTokens rest (reading.takeLog text rest)
  | .separator :: rest, reading =>
    readTokens rest { reading with leftOver := reading.leftOver || reading.logsRead }
  | .long option (some value) :: rest, reading => do
    let arguments ← setValue reading.arguments option value
    readTokens rest { reading with arguments }
  | .long option none :: rest, reading =>
    if option.takesValue then
      match rest with
      | .plain value :: rest => do
        let arguments ← setValue reading.arguments option value
        readTokens rest { reading with arguments }
      | _ => .error .usage
    else do
      let arguments ← setFlag reading.arguments option
      readTokens rest { reading with arguments }
  | .short letters :: rest, reading => do
    let (options, leftOver) ← readLetters letters
    let arguments ← options.foldlM setFlag reading.arguments
    readTokens rest { reading with arguments, leftOver := reading.leftOver || leftOver }
  | .ambiguous :: _, _ => .error .usage
  | .unknown :: rest, reading => readTokens rest { reading with leftOver := true }

/-- Read a command line. An option that is not told apart is found before anything is read. -/
def read (line : List String) : Except Stop Arguments := do
  let line := tokens line
  if line.contains .ambiguous then
    throw .usage
  let reading ← readTokens line {}
  if reading.leftOver || reading.arguments.logs.isEmpty then
    throw .usage
  return reading.arguments

/-- The settings that a command line asks for. -/
def Arguments.settings (arguments : Arguments) : Except Failure Settings :=
  Settings.ofFields
    [ ("num_output_rows", .int arguments.rows), ("strict_mode", .bool arguments.strict),
      ("show_progress", .bool arguments.progress), ("generate_dot", .bool arguments.graphs),
      ("max_workers", .int arguments.workers), ("output_dir", .text arguments.directory) ]

end SparkLog.CommandLine
