import SparkLog.Text.Blank
import SparkLog.Text.Digit
import SparkLog.Text.WordCharacter

/-!
# Patterns

Properties are selected by patterns over their keys. What counts is whether a text matches, not
which of its parts does, so a pattern leads from a place in a text to all the places where a match
may end, and a repetition that takes as much as it can is the same as one that takes as little.
-/

namespace SparkLog.Text

/-- A kind of characters that has a name. -/
inductive CharKind where
  | digit
  | space
  | word
  deriving DecidableEq

/-- Whether a character is of a kind. -/
def CharKind.has : CharKind → Char → Bool
  | .digit, c => (digitValue? c).isSome
  | .space, c => isBlank c
  | .word, c => isWord c

/-- A part of a set of characters: a run of code points, or a kind or all the others. -/
inductive CharItem where
  | run (first last : Nat)
  | named (kind : CharKind) (others : Bool)
  deriving DecidableEq

/-- Whether a part of a set has a character. -/
def CharItem.has : CharItem → Char → Bool
  | .run first last, c => first ≤ c.toNat && c.toNat ≤ last
  | .named kind others, c => kind.has c != others

/-- A set of characters: those in any of its items, or all the others. -/
structure CharSet where
  items : List CharItem
  others : Bool
  deriving DecidableEq

/-- Whether a set has a character. -/
def CharSet.has (set : CharSet) (c : Char) : Bool :=
  set.items.any (fun item => item.has c) != set.others

/-- A place that a pattern asks for: the start of the text, its end or the line feed before it, its
very end, an edge of a word, or any place but such an edge. -/
inductive Mark where
  | start
  | lineEnd
  | stop
  | edge
  | noEdge
  deriving DecidableEq

/-- Whether a word goes on from one side of a place to the other, or stays out on both. -/
def isInsideOrOut (text : Array Char) (i : Nat) : Bool :=
  let before := i != 0 && text[i - 1]?.any isWord
  before == text[i]?.any isWord

/-- Whether a place is marked. A text without characters has neither edges nor other places. -/
def Mark.holds (mark : Mark) (text : Array Char) (i : Nat) : Bool :=
  match mark with
  | .start => i == 0
  | .lineEnd => i == text.size || (i + 1 == text.size && text[i]? == some '\n')
  | .stop => i == text.size
  | .edge => text.size != 0 && !isInsideOrOut text i
  | .noEdge => text.size != 0 && isInsideOrOut text i

/-- A pattern. A group stands apart from what it holds, as it may be repeated once more. A
repetition tells the least number of rounds, and how many more there may be unless there may be any.
A pattern ahead or behind tells whether it matches there, or that it does not. -/
inductive Pattern where
  | nothing
  | one (set : CharSet)
  | place (mark : Mark)
  | sequence (first second : Pattern)
  | choice (first second : Pattern)
  | group (body : Pattern)
  | repeated (least : Nat) (further : Option Nat) (body : Pattern)
  | ahead (absent : Bool) (body : Pattern)
  | behind (absent : Bool) (body : Pattern)
  deriving DecidableEq

namespace Pattern

/-- The least and the largest number of characters that a pattern matches, the latter if there is
one. -/
def width : Pattern → Nat × Option Nat
  | .nothing | .place _ | .ahead .. | .behind .. => (0, some 0)
  | .one _ => (1, some 1)
  | .sequence first second =>
    (first.width.1 + second.width.1,
      first.width.2.bind fun m => second.width.2.map fun n => m + n)
  | .choice first second =>
    (min first.width.1 second.width.1,
      first.width.2.bind fun m => second.width.2.map fun n => max m n)
  | .group body => body.width
  | .repeated least further body =>
    (least * body.width.1,
      if body.width.2 = some 0 ∨ (least = 0 ∧ further = some 0) then some 0
      else further.bind fun further => body.width.2.map fun n => (least + further) * n)

/-- The places after a number of rounds, from any of the places at hand. -/
def after (round : Nat → List Nat) : Nat → List Nat → List Nat
  | 0, places => places
  | count + 1, places => after round count (places.flatMap round).eraseDups

/-- The places after up to a number of rounds. Those that were seen are kept, and only those that
were not are tried in the next round. -/
def within (round : Nat → List Nat) : Nat → List Nat → List Nat → List Nat
  | 0, seen, _ => seen
  | count + 1, seen, fresh =>
    let next := (fresh.flatMap round).eraseDups.filter fun place => !seen.contains place
    within round count (seen ++ next) next

/-- The places after as many rounds as a repetition wants. With `left` characters left, all rounds
past one more than these are rounds that match no character, which change nothing. -/
def repetition (round : Nat → List Nat) (least : Nat) (further : Option Nat) (left place : Nat) :
    List Nat :=
  let first := after round (min least (left + 1)) [place]
  within round (further.elim left (min left)) first first

/-- The places where a match may end that begins at a place. -/
def ends (text : Array Char) : Pattern → Nat → List Nat
  | .nothing, i => [i]
  | .one set, i => if text[i]?.any set.has then [i + 1] else []
  | .place mark, i => if mark.holds text i then [i] else []
  | .sequence first second, i => ((first.ends text i).flatMap (second.ends text)).eraseDups
  | .choice first second, i => (first.ends text i ++ second.ends text i).eraseDups
  | .group body, i => body.ends text i
  | .repeated least further body, i =>
    repetition (body.ends text) least further (text.size - i) i
  | .ahead absent body, i => if (body.ends text i).isEmpty == absent then [i] else []
  | .behind absent body, i =>
    let width := body.width.1
    let present := width ≤ i && (body.ends text (i - width)).contains i
    if present != absent then [i] else []

/-- Whether the pattern matches a beginning of a text. -/
def matchesStart (pattern : Pattern) (text : String) : Bool :=
  !(pattern.ends text.toList.toArray 0).isEmpty

/-- Whether the pattern matches a whole text. -/
def matchesAll (pattern : Pattern) (text : String) : Bool :=
  (pattern.ends text.toList.toArray 0).contains text.length

/-- Whether everything that is looked for behind a place has one width, and none past `limit`. -/
def looksBack (limit : Nat) : Pattern → Bool
  | .nothing | .one _ | .place _ => true
  | .sequence first second | .choice first second =>
    first.looksBack limit && second.looksBack limit
  | .group body | .repeated _ _ body | .ahead _ body => body.looksBack limit
  | .behind _ body =>
    body.width.2 == some body.width.1 && body.width.1 ≤ limit && body.looksBack limit

end Pattern

end SparkLog.Text
