import SparkLog.Decimal.Basic
import SparkLog.Failure
import SparkLog.Text.Pattern

/-!
# Reading patterns

A pattern is written as a choice of sequences. The items of a sequence are characters, sets of them
in brackets, escapes behind a backslash, marks, and groups in parentheses, each followed by how
often it is repeated. The reader keeps the groups that are open, the innermost one apart.

References to what a group matched, conditions on it, inline flags, characters by name, and groups
and repetitions that give nothing back once they matched are not covered: a pattern with one of
these counts as bad.
-/

namespace SparkLog.Text

/-- Whether a character is a digit among `0` to `7`. -/
def isOctalDigit (c : Char) : Bool :=
  '0' ≤ c && c ≤ '7'

namespace Pattern

/-! ## Escapes -/

/-- The code point of a fixed number of hexadecimal digits. -/
def hexCode? (count : Nat) (cs : List Char) : Option (Nat × List Char) := do
  let digits ← (cs.take count).mapM hexDigitValue?
  if digits.length = count then
    some (digits.foldl (fun code digit => 16 * code + digit) 0, cs.drop count)
  else none

/-- The octal digits at the head of a text, three at most. -/
def octalRun (cs : List Char) : List Char :=
  (cs.take 3).takeWhile isOctalDigit

/-- The code point of up to three octal digits, which is below 256. -/
def octalCode? (cs : List Char) : Option (Nat × List Char) :=
  let digits := octalRun cs
  let code := digits.foldl (fun code digit => 8 * code + (digit.toNat - 48)) 0
  if digits.isEmpty || 255 < code then none else some (code, cs.drop digits.length)

/-- The control character that a letter behind a backslash stands for. -/
def controlCode? : Char → Option Nat
  | 'a' => some 7
  | 't' => some 9
  | 'n' => some 10
  | 'v' => some 11
  | 'f' => some 12
  | 'r' => some 13
  | _ => none

/-- The code point that is written behind a backslash in any place of a pattern. Letters and digits
without a meaning of their own are refused. -/
def code? : List Char → Option (Nat × List Char)
  | [] => none
  | 'x' :: rest => hexCode? 2 rest
  | 'u' :: rest => hexCode? 4 rest
  | 'U' :: rest => (hexCode? 8 rest).filter fun code => code.1 < 0x110000
  | c :: rest =>
    match controlCode? c with
    | some code => some (code, rest)
    | none => if c.isAlphanum then none else some (c.toNat, rest)

/-- The kind of characters that a letter behind a backslash stands for, or the others for a capital
letter. -/
def kind? : Char → Option CharItem
  | 'd' => some (.named .digit false)
  | 'D' => some (.named .digit true)
  | 's' => some (.named .space false)
  | 'S' => some (.named .space true)
  | 'w' => some (.named .word false)
  | 'W' => some (.named .word true)
  | _ => none

/-- The mark that a letter behind a backslash stands for. -/
def mark? : Char → Option Mark
  | 'A' => some .start
  | 'Z' => some .stop
  | 'b' => some .edge
  | 'B' => some .noEdge
  | _ => none

/-- The pattern of one code point. -/
def single (code : Nat) : Pattern :=
  .one { items := [.run code code], others := false }

/-- The pattern that is written behind a backslash. Digits are octal if they begin with a zero or
are three; others refer to a group. -/
def escape? (cs : List Char) : Option (Pattern × List Char) :=
  match cs with
  | [] => none
  | c :: rest =>
    match kind? c, mark? c with
    | some item, _ => some (.one { items := [item], others := false }, rest)
    | none, some mark => some (.place mark, rest)
    | none, none =>
      let code := if c = '0' ∨ (octalRun cs).length = 3 then octalCode? cs else code? cs
      code.map fun (code, rest) => (single code, rest)

/-! ## Sets -/

/-- A character of a set, or a kind of characters. -/
def setItem? : List Char → Option (CharItem × List Char)
  | [] => none
  | '\\' :: 'b' :: rest => some (.run 8 8, rest)
  | '\\' :: cs =>
    match cs.head?.bind kind? with
    | some item => some (item, cs.tail)
    | none => (octalCode? cs <|> code? cs).map fun (code, rest) => (.run code code, rest)
  | c :: rest => some (.run c.toNat c.toNat, rest)

/-- The run from one character to another. -/
def runTo? : CharItem → CharItem → Option CharItem
  | .run first _, .run _ last => if first ≤ last then some (.run first last) else none
  | _, _ => none

/-- Read a set up to its closing bracket, which does not come first. Every item takes a character,
so a fuel of the length of the text is never used up. -/
def setItems? : Nat → List CharItem → List Char → Option (List CharItem × List Char)
  | 0, _, _ => none
  | fuel + 1, items, cs =>
    match cs, items with
    | ']' :: rest, _ :: _ => some (items, rest)
    | _, _ => do
      let (item, rest) ← setItem? cs
      match rest with
      | '-' :: ']' :: rest => some (.run 45 45 :: item :: items, rest)
      | '-' :: rest => do
        let (last, rest) ← setItem? rest
        let run ← runTo? item last
        setItems? fuel (run :: items) rest
      | _ => setItems? fuel (item :: items) rest

/-- Read a set behind its opening bracket. -/
def set? (cs : List Char) : Option (CharSet × List Char) :=
  let (others, body) :=
    match cs with
    | '^' :: rest => (true, rest)
    | _ => (false, cs)
  (setItems? (body.length + 1) [] body).map fun (items, rest) => ({ items, others }, rest)

/-! ## Repetitions -/

/-- The number of repetitions past which no number is read. -/
def repetitionLimit : Nat := 4294967295

/-- The number of repetitions that digits tell. -/
def repetitions (digits : List Char) : Except Failure Nat :=
  let count := digits.foldl (fun n c => 10 * n + (c.toNat - 48)) 0
  if Decimal.digitLimit < digits.length then .error (.tooManyDigits digits.length)
  else if repetitionLimit ≤ count then .error .tooManyRepetitions
  else .ok count

/-- The digits of both bounds behind an opening brace, the same digits twice without a comma. Braces
that hold anything else, or nothing, are plain characters. -/
def braces? : List Char → Option (List Char × List Char × List Char)
  | '}' :: _ => none
  | cs =>
    let (least, rest) := cs.span Char.isDigit
    let (most, rest) :=
      match rest with
      | ',' :: rest => rest.span Char.isDigit
      | _ => (least, rest)
    match rest with
    | '}' :: rest => some (least, most, rest)
    | _ => none

/-- The least number of repetitions that the digits in braces tell, and how many more there may be:
without a lower bound from none, without an upper one any number. -/
def bounds (least most : List Char) : Except Failure (Nat × Option Nat) := do
  let least ← repetitions least
  if most.isEmpty then return (least, none)
  let most ← repetitions most
  if most < least then .error .badPattern else return (least, some (most - least))

/-- Whether an item of a sequence may be repeated: a place may not, nor may a repetition. -/
def isRepeatable : Pattern → Bool
  | .place _ | .repeated .. => false
  | _ => true

/-- Repeat the last item of a sequence, whose items stand last first. -/
def repeatLast (bounds : Nat × Option Nat) : List Pattern → Except Failure (List Pattern)
  | [] => .error .badPattern
  | item :: items =>
    if item.isRepeatable then .ok (.repeated bounds.1 bounds.2 item :: items)
    else .error .badPattern

/-! ## Groups -/

/-- What a parenthesis opens. -/
inductive Opening where
  | group
  | ahead (absent : Bool)
  | behind (absent : Bool)

/-- The pattern of a parenthesis and what it holds. -/
def Opening.close : Opening → Pattern → Pattern
  | .group, body => .group body
  | .ahead absent, body => .ahead absent body
  | .behind absent, body => .behind absent body

/-- A choice that is being read: its sequences and the items of the current one, last first. -/
structure Choice where
  sequences : List Pattern
  items : List Pattern

/-- A choice before anything of it is read. -/
def Choice.empty : Choice :=
  { sequences := [], items := [] }

/-- The sequence of items that stand last first. -/
def ofItems (items : List Pattern) : Pattern :=
  items.foldl (fun rest item => .sequence item rest) .nothing

/-- The pattern of a choice that ends here. -/
def Choice.pattern (read : Choice) : Pattern :=
  read.sequences.foldl (fun rest first => .choice first rest) (ofItems read.items)

/-- How far a pattern is read: the innermost choice, what is open around it, and the names that
groups have so far. -/
structure Progress where
  inner : Choice
  outer : List (Opening × Choice)
  names : List (List Char)

namespace Progress

/-- Append an item to the current sequence. -/
def add (progress : Progress) (item : Pattern) : Progress :=
  { progress with inner := { progress.inner with items := item :: progress.inner.items } }

/-- Begin the next sequence of the innermost choice. -/
def next (progress : Progress) : Progress :=
  let inner := progress.inner
  { progress with inner := { sequences := ofItems inner.items :: inner.sequences, items := [] } }

/-- Open a parenthesis. -/
def «open» (progress : Progress) (opening : Opening) : Progress :=
  { progress with inner := .empty, outer := (opening, progress.inner) :: progress.outer }

/-- Close the innermost parenthesis. -/
def close (progress : Progress) : Except Failure Progress :=
  match progress.outer with
  | [] => .error .badPattern
  | (opening, around) :: outer =>
    .ok ({ progress with inner := around, outer }.add (opening.close progress.inner.pattern))

/-- Open a group that has a name: word characters, of which the first is no digit, and no name of
another group. -/
def openNamed (progress : Progress) (cs : List Char) : Except Failure (Progress × List Char) :=
  match cs.span (· != '>') with
  | (first :: name, _ :: rest) =>
    if (first :: name).all isWord && !CharKind.digit.has first &&
        !progress.names.contains (first :: name) then
      .ok ({ progress with names := (first :: name) :: progress.names }.open .group, rest)
    else .error .badPattern
  | _ => .error .badPattern

end Progress

/-- What follows a comment, in which a backslash takes the next character along. -/
def skipComment? : List Char → Option (List Char)
  | [] => none
  | ')' :: rest => some rest
  | '\\' :: _ :: rest => skipComment? rest
  | _ :: rest => skipComment? rest

/-- Read on behind a parenthesis with a question mark. -/
def extension (progress : Progress) (cs : List Char) : Except Failure (Progress × List Char) :=
  match cs with
  | ':' :: rest => .ok (progress.open .group, rest)
  | '=' :: rest => .ok (progress.open (.ahead false), rest)
  | '!' :: rest => .ok (progress.open (.ahead true), rest)
  | '<' :: '=' :: rest => .ok (progress.open (.behind false), rest)
  | '<' :: '!' :: rest => .ok (progress.open (.behind true), rest)
  | 'P' :: '<' :: rest => progress.openNamed rest
  | '#' :: rest =>
    match skipComment? rest with
    | some rest => .ok (progress, rest)
    | none => .error .badPattern
  | _ => .error .badPattern

/-- Repeat the last item, and pass over a mark that the repetition takes as little as it can. -/
def quantify (progress : Progress) (bounds : Nat × Option Nat) (rest : List Char) :
    Except Failure (Progress × List Char) := do
  let items ← repeatLast bounds progress.inner.items
  let progress := { progress with inner := { progress.inner with items } }
  match rest with
  | '?' :: rest => return (progress, rest)
  | _ => return (progress, rest)

/-- Read the next item of a sequence, or the end of it. -/
def readItem (progress : Progress) (c : Char) (rest : List Char) :
    Except Failure (Progress × List Char) :=
  match c, rest with
  | '|', _ => .ok (progress.next, rest)
  | '(', '?' :: rest => extension progress rest
  | '(', _ => .ok (progress.open .group, rest)
  | ')', _ => do return (← progress.close, rest)
  | '.', _ => .ok (progress.add (.one { items := [.run 10 10], others := true }), rest)
  | '^', _ => .ok (progress.add (.place .start), rest)
  | '$', _ => .ok (progress.add (.place .lineEnd), rest)
  | '?', _ => quantify progress (0, some 1) rest
  | '*', _ => quantify progress (0, none) rest
  | '+', _ => quantify progress (1, none) rest
  | '\x7b', _ =>
    match braces? rest with
    | none => .ok (progress.add (single c.toNat), rest)
    | some (least, most, rest) => do quantify progress (← bounds least most) rest
  | '[', _ =>
    match set? rest with
    | some (set, rest) => .ok (progress.add (.one set), rest)
    | none => .error .badPattern
  | '\\', _ =>
    match escape? rest with
    | some (pattern, rest) => .ok (progress.add pattern, rest)
    | none => .error .badPattern
  | _, _ => .ok (progress.add (single c.toNat), rest)

/-- Read a pattern on to its end. Every item takes a character, so a fuel of the length of the text
is never used up. -/
def readItems : Nat → Progress → List Char → Except Failure Pattern
  | _, progress, [] =>
    if progress.outer.isEmpty then .ok progress.inner.pattern else .error .badPattern
  | 0, _, _ :: _ => .error .badPattern
  | fuel + 1, progress, c :: rest => do
    let (progress, rest) ← readItem progress c rest
    readItems fuel progress rest

/-- Read a pattern. What it looks for behind a place has to have one width. -/
def read (text : String) : Except Failure Pattern := do
  let cs := text.toList
  let pattern ← readItems cs.length { inner := .empty, outer := [], names := [] } cs
  if pattern.looksBack repetitionLimit then return pattern else .error .badPattern

end Pattern

end SparkLog.Text
