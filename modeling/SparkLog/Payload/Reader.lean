import SparkLog.Payload.Basic
import SparkLog.Decimal.Numeral

/-!
# Reading payloads

A recursive-descent reader of exchange documents. Beyond the common grammar it knows the names of
no number and of the infinities, and of a key that stands twice in an object the last value counts
at the first place. A fault carries how much of the text was left where it was found. Two limits
stop the reader at a text that may well be a document: integers have only so many digits, and lists
and objects stand inside each other only so deep.
-/

namespace SparkLog.Payload

namespace Reader

open Decimal Text

/-- What stops the reader: a fault, with how many characters were left at its place, an integer of
too many digits, or a list or an object inside too many others. -/
inductive Stop where
  | fault (fault : SyntaxFault) (left : Nat)
  | digits (count : Nat)
  | depth (shape : Shape)

/-- A part that was read, and the text behind it. -/
abbrev Step (α : Type) := Except Stop (α × List Char)

/-- A fault at the head of `rest`. -/
def stop {α : Type} (fault : SyntaxFault) (rest : List Char) : Except Stop α :=
  .error (.fault fault rest.length)

/-- Whether a character may stand between the parts of a document. -/
def isSpace (c : Char) : Bool :=
  c == ' ' || c == '\t' || c == '\n' || c == '\r'

/-- The text without leading space. -/
def skip (cs : List Char) : List Char :=
  cs.dropWhile isSpace

/-- The value of four hexadecimal digits. -/
def hexUnit? (a b c d : Char) : Option Nat :=
  match hexDigitValue? a, hexDigitValue? b, hexDigitValue? c, hexDigitValue? d with
  | some a, some b, some c, some d => some (((a * 16 + b) * 16 + c) * 16 + d)
  | _, _, _, _ => none

/-- The character of a sixteen-bit unit. Half of a pair alone has none of its own: all such halves
are read as the one replacement character, also where it matters which half stood there. -/
def unitChar (n : Nat) : Char :=
  if 0xD800 ≤ n ∧ n < 0xE000 then '\uFFFD' else Char.ofNat n

/-- The character that a short escape stands for. -/
def shortEscape? : Char → Option Char
  | '"' => some '"'
  | '\\' => some '\\'
  | '/' => some '/'
  | 'b' => some '\x08'
  | 'f' => some '\x0c'
  | 'n' => some '\n'
  | 'r' => some '\r'
  | 't' => some '\t'
  | _ => none

/-- Read a text up to its closing quote. `start` is the document from the opening quote on, and
`read` holds the characters so far, last first. -/
def textBody (start : List Char) : List Char → List Char → Step String
  | read, '"' :: rest => .ok (String.ofList read.reverse, rest)
  | read, '\\' :: 'u' :: a :: b :: c :: d :: '\\' :: 'u' :: e :: f :: g :: h :: after :: rest =>
    match hexUnit? a b c d with
    | none =>
      stop .codePoint
        ('u' :: a :: b :: c :: d :: '\\' :: 'u' :: e :: f :: g :: h :: after :: rest)
    | some high =>
      if 0xD800 ≤ high ∧ high < 0xDC00 then
        match hexUnit? e f g h with
        | none => stop .codePoint ('u' :: e :: f :: g :: h :: after :: rest)
        | some low =>
          if 0xDC00 ≤ low ∧ low < 0xE000 then
            let c := Char.ofNat (0x10000 + (high - 0xD800) * 0x400 + (low - 0xDC00))
            textBody start (c :: read) (after :: rest)
          else
            textBody start (unitChar high :: read)
              ('\\' :: 'u' :: e :: f :: g :: h :: after :: rest)
      else
        textBody start (unitChar high :: read) ('\\' :: 'u' :: e :: f :: g :: h :: after :: rest)
  | read, '\\' :: 'u' :: a :: b :: c :: d :: after :: rest =>
    match hexUnit? a b c d with
    | none => stop .codePoint ('u' :: a :: b :: c :: d :: after :: rest)
    | some unit => textBody start (unitChar unit :: read) (after :: rest)
  | _, '\\' :: 'u' :: rest => stop .codePoint ('u' :: rest)
  | read, '\\' :: c :: rest =>
    match shortEscape? c with
    | some plain => textBody start (plain :: read) rest
    | none => stop .escape ('\\' :: c :: rest)
  | _, ['\\'] => stop .unterminated start
  | read, c :: rest =>
    if c.toNat < 32 then stop .control (c :: rest) else textBody start (c :: read) rest
  | _, [] => stop .unterminated start

/-- The leading decimal digits of a text, and the rest. -/
def digitRun (cs : List Char) : List Char × List Char :=
  cs.span fun c => '0' ≤ c && c ≤ '9'

/-- The value of a run of digits. -/
def digitsValue (cs : List Char) : Nat :=
  cs.foldl (fun n c => 10 * n + (c.toNat - 48)) 0

/-- The digits behind a point, if there are any. -/
def fraction (cs : List Char) : List Char × List Char :=
  match cs with
  | '.' :: rest => if (digitRun rest).1.isEmpty then ([], cs) else digitRun rest
  | _ => ([], cs)

/-- The exponent behind its mark, if there is one. -/
def exponent? (cs : List Char) : Option (Int × List Char) :=
  match cs with
  | mark :: rest =>
    if mark = 'e' ∨ mark = 'E' then
      let (negative, body) := readSign rest
      let (digits, rest) := digitRun body
      if digits.isEmpty then none else some (signed negative (digitsValue digits), rest)
    else none
  | [] => none

/-- Whether a number has a minus, and what follows. -/
def minus (cs : List Char) : Bool × List Char :=
  match cs with
  | '-' :: rest => (true, rest)
  | _ => (false, cs)

/-- The digits in front of a point: no digit follows a leading zero. -/
def wholeDigits (cs : List Char) : List Char × List Char :=
  match cs with
  | '0' :: rest => (['0'], rest)
  | _ => digitRun cs

/-- Read a number: an integer, or a floating-point number if it has a fraction or an exponent. -/
def number (cs : List Char) : Step Payload :=
  let (negative, body) := minus cs
  let (whole, rest) := wholeDigits body
  if whole.isEmpty then stop .value cs
  else
    let (places, rest) := fraction rest
    let coefficient := digitsValue (whole ++ places)
    match exponent? rest with
    | some (e, rest) =>
      .ok (.float (Binary64.ofDecimal negative coefficient (e - places.length)), rest)
    | none =>
      if places.isEmpty then
        if digitLimit < whole.length then .error (.digits whole.length)
        else .ok (.int (signed negative coefficient), rest)
      else .ok (.float (Binary64.ofDecimal negative coefficient (-(places.length : Int))), rest)

/-- Read anything that is neither a text nor a list nor an object. -/
def atom : List Char → Step Payload
  | 'n' :: 'u' :: 'l' :: 'l' :: rest => .ok (.null, rest)
  | 't' :: 'r' :: 'u' :: 'e' :: rest => .ok (.bool true, rest)
  | 'f' :: 'a' :: 'l' :: 's' :: 'e' :: rest => .ok (.bool false, rest)
  | 'N' :: 'a' :: 'N' :: rest => .ok (.float .nan, rest)
  | 'I' :: 'n' :: 'f' :: 'i' :: 'n' :: 'i' :: 't' :: 'y' :: rest =>
    .ok (.float (.infinite false), rest)
  | '-' :: 'I' :: 'n' :: 'f' :: 'i' :: 'n' :: 'i' :: 't' :: 'y' :: rest =>
    .ok (.float (.infinite true), rest)
  | cs => number cs

/-- How many lists and objects may be open inside each other. The reader shares a limit of a
thousand open calls with its callers, who have up to twenty open when they read a log. -/
def depthLimit : Nat := 980

/-- Read the inside of a list or an object, if one more of them may be open. -/
def nested (shape : Shape) (depth : Nat) (inside : Nat → Step Payload) : Step Payload :=
  match depth with
  | 0 => .error (.depth shape)
  | depth + 1 => inside depth

mutual

/-- Read one value, in which as many lists and objects may be open as `depth` tells. Of two steps
one behind the other, at least one takes a character, so a fuel past twice the length of the text is
never used up. -/
def value : Nat → Nat → List Char → Step Payload
  | 0, _, cs => stop .value cs
  | fuel + 1, depth, cs =>
    match cs with
    | '"' :: rest => (textBody cs [] rest).map fun (s, rest) => (.text s, rest)
    | '[' :: rest =>
      nested .list depth fun depth =>
        match skip rest with
        | ']' :: rest => .ok (.list [], rest)
        | rest => elements fuel depth [] rest
    | '\x7b' :: rest =>
      nested .object depth fun depth =>
        match skip rest with
        | '\x7d' :: rest => .ok (.object [], rest)
        | rest => members fuel depth [] rest
    | cs => atom cs

/-- Read the items of a list from the next one on; `read` holds those so far, last first. -/
def elements : Nat → Nat → List Payload → List Char → Step Payload
  | 0, _, _, cs => stop .value cs
  | fuel + 1, depth, read, cs =>
    match value fuel depth cs with
    | .error cause => .error cause
    | .ok (item, rest) =>
      match skip rest with
      | ']' :: rest => .ok (.list (item :: read).reverse, rest)
      | ',' :: rest => elements fuel depth (item :: read) (skip rest)
      | rest => stop .comma rest

/-- Read the fields of an object from the next one on; `read` holds those so far. -/
def members : Nat → Nat → Fields → List Char → Step Payload
  | 0, _, _, cs => stop .value cs
  | fuel + 1, depth, read, cs =>
    match cs with
    | '"' :: rest =>
      match textBody cs [] rest with
      | .error cause => .error cause
      | .ok (key, rest) =>
        match skip rest with
        | ':' :: rest =>
          match value fuel depth (skip rest) with
          | .error cause => .error cause
          | .ok (item, rest) =>
            let read := Fields.set read key item
            match skip rest with
            | '\x7d' :: rest => .ok (.object read, rest)
            | ',' :: rest => members fuel depth read (skip rest)
            | rest => stop .comma rest
        | rest => stop .colon rest
    | rest => stop .key rest

end

/-- Read a whole document. -/
def document (cs : List Char) : Except Stop Payload :=
  match cs with
  | '\uFEFF' :: _ => stop .byteOrderMark cs
  | _ =>
    match value (2 * cs.length + 1) depthLimit (skip cs) with
    | .error cause => .error cause
    | .ok (payload, rest) =>
      match skip rest with
      | [] => .ok payload
      | rest => stop .extra rest

/-- The place where `left` characters of a text remain. -/
def placeOf (cs : List Char) (left : Nat) : Place :=
  let before := cs.take (cs.length - left)
  { line := before.count '\n' + 1
    column := (before.reverse.takeWhile (· != '\n')).length + 1
    offset := before.length }

end Reader

/-- The payload that a document holds. -/
def read (cs : List Char) : Except Failure Payload :=
  match Reader.document cs with
  | .ok payload => .ok payload
  | .error (.fault fault left) => .error (.malformed fault (Reader.placeOf cs left))
  | .error (.digits count) => .error (.tooManyDigits count)
  | .error (.depth shape) => .error (.tooDeep shape)

end SparkLog.Payload
