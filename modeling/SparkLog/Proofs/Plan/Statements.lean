import Mathlib.Data.List.Basic
import SparkLog.Plan.Dot
import SparkLog.Proofs.Decimal.Digits

/-!
# Statements of drawings

A drawing is a text of lines, and each line holds one statement (`Statement.read`). The reader takes
a label up to the first quote that no backslash stands for (`quoted`), and what follows has to end
the statement. So a line that a drawing is written with reads back as what it was written for: its
numbers (`number_digits`) and its labels (`quoted_escape`) are those that were put in.
-/

namespace SparkLog.Dot

open Decimal

/-- What a line of a drawing says. Labels are as they stand between their quotes. -/
inductive Statement where
  | graph
  | label (text : List Char)
  | labelPlace
  | nodeShape
  | cluster (id : Nat)
  | dashed
  | node (id : Nat) (label : List Char)
  | edge (input reader : Nat)
  | close
  | blank
  deriving DecidableEq

/-- The rest of a text behind a word that it has to begin with. -/
def skip (word : String) (cs : List Char) : Option (List Char) :=
  cs.dropPrefix? word.toList

/-- The text up to the first quote that no backslash escapes, and what follows that quote. -/
def quoted : List Char → Option (List Char × List Char)
  | [] => none
  | '"' :: rest => some ([], rest)
  | '\\' :: c :: rest => (quoted rest).map fun (text, after) => ('\\' :: c :: text, after)
  | c :: rest => (quoted rest).map fun (text, after) => (c :: text, after)

/-- The number that a text begins with, and what follows it. -/
def number (cs : List Char) : Option (Nat × List Char) :=
  let found := cs.takeWhile Char.isDigit
  if found.isEmpty then none
  else some (Nat.ofDigitChars 10 found 0, cs.dropWhile Char.isDigit)

namespace Statement

/-- A statement that is the whole of a text. -/
def fixed (word : String) (statement : Statement) (cs : List Char) : Option Statement := do
  let rest ← skip word cs
  if rest.isEmpty then return statement else none

/-- A label of a graph or a cluster. -/
def readLabel (cs : List Char) : Option Statement := do
  let rest ← skip "label=\"" cs
  let (text, rest) ← quoted rest
  fixed ";" (.label text) rest

/-- The opening of a cluster. -/
def readCluster (cs : List Char) : Option Statement := do
  let rest ← skip "subgraph cluster_" cs
  let (id, rest) ← number rest
  fixed " \x7b" (.cluster id) rest

/-- A node, with its label, behind its number. -/
def readNode (id : Nat) (cs : List Char) : Option Statement := do
  let rest ← skip " [label=\"" cs
  let (text, rest) ← quoted rest
  fixed "];" (.node id text) rest

/-- An edge, behind the number of its first node. -/
def readEdge (input : Nat) (cs : List Char) : Option Statement := do
  let rest ← skip " -> node_" cs
  let (reader, rest) ← number rest
  fixed ";" (.edge input reader) rest

/-- A node or an edge. -/
def readNumbered (cs : List Char) : Option Statement := do
  let rest ← skip "node_" cs
  let (id, rest) ← number rest
  readNode id rest <|> readEdge id rest

/-- The statement of a line. -/
def read (line : List Char) : Option Statement :=
  let cs := line.dropWhile (· == ' ')
  fixed "" .blank cs <|> fixed "digraph G \x7b" .graph cs <|> fixed "labelloc=t;" .labelPlace cs <|>
    fixed "node [shape=box, fontsize=10];" .nodeShape cs <|> fixed "style=dashed;" .dashed cs <|>
    fixed "\x7d" .close cs <|> readLabel cs <|> readCluster cs <|> readNumbered cs

end Statement

/-! ## Reading back -/

/-- Behind a word stands what was put behind it. -/
theorem skip_append (word : String) (rest : List Char) :
    skip word (word.toList ++ rest) = some rest :=
  List.dropPrefix?_eq_some_iff.mpr ⟨word.toList, rfl, beq_self_eq_true word.toList⟩

/-- An escaped text is read up to the quote behind it. -/
theorem quoted_escape (cs rest : List Char) :
    quoted (escapeChars cs ++ '"' :: rest) = some (escapeChars cs, rest) := by
  induction cs with
  | nil => rfl
  | cons c cs ih =>
      show quoted (escapeChar c ++ escapeChars cs ++ '"' :: rest) =
        some (escapeChar c ++ escapeChars cs, rest)
      unfold escapeChar
      split
      · simp [quoted, ih]
      · split
        · simp [quoted, ih]
        · split
          · simp [quoted, ih]
          · simp [quoted, *]

/-- The digits of a number are read as the number. -/
theorem number_digits (n : Nat) {rest : List Char} (h : ∀ c ∈ rest.head?, c.isDigit = false) :
    number (digits n ++ rest) = some (n, rest) := by
  have hdigits : ∀ c ∈ digits n, c.isDigit = true :=
    fun c hmem => is_digit_of_mem_digits hmem
  have htake : rest.takeWhile Char.isDigit = [] := by
    cases rest with
    | nil => rfl
    | cons c rest => simp [h c rfl]
  have hdrop : rest.dropWhile Char.isDigit = rest := by
    cases rest with
    | nil => rfl
    | cons c rest => simp [h c rfl]
  have hnil : (digits n).isEmpty = false := by simp [digits]
  rw [number, List.takeWhile_append_of_pos hdigits, List.dropWhile_append_of_pos hdigits, htake,
    hdrop, List.append_nil, hnil, digits, Nat.ofDigitChars_toDigits (by decide) (by decide)]
  rfl

namespace Statement

/-- A word is read as the statement that it stands for. -/
theorem fixed_self (word : String) (statement : Statement) :
    fixed word statement word.toList = some statement := by
  have hskip := skip_append word []
  rw [List.append_nil] at hskip
  rw [fixed, hskip]
  rfl

/-- Indentation says nothing. -/
theorem read_indent {indent : List Char} (h : ∀ c ∈ indent, c = ' ') (cs : List Char) :
    read (indent ++ cs) = read cs := by
  have hspaces : ∀ c ∈ indent, (c == ' ') = true := fun c hc => beq_iff_eq.mpr (h c hc)
  rw [read, List.dropWhile_append_of_pos hspaces]
  rfl

end Statement

/-- Labels are escaped. -/
theorem label_eq_escape (node : GraphNode) (query : Int) (values : Values) :
    ∃ text, (label node query values).toList = escapeChars text :=
  ⟨_, String.toList_ofList⟩

/-- The line of an edge is made of its two numbers. -/
theorem edge_line_eq (edge : Nat × Nat) : (edgeLine edge).toList =
    ' ' :: ' ' :: ("node_".toList ++ (digits edge.1 ++
      (" -> node_".toList ++ (digits edge.2 ++ ";".toList)))) := by
  simp [edgeLine, nodeName, int_text_nat]

/-- The line of an edge reads back as the edge. -/
theorem read_edge_line (edge : Nat × Nat) :
    Statement.read (edgeLine edge).toList = some (.edge edge.1 edge.2) := by
  have hedge : Statement.readEdge edge.1 (" -> node_".toList ++ (digits edge.2 ++ ";".toList)) =
      some (.edge edge.1 edge.2) := by
    rw [Statement.readEdge, skip_append, Option.bind_eq_bind, Option.bind_some,
      number_digits edge.2 (by simp)]
    exact Statement.fixed_self ";" _
  rw [edge_line_eq]
  show Statement.readNumbered ("node_".toList ++ (digits edge.1 ++
    (" -> node_".toList ++ (digits edge.2 ++ ";".toList)))) = _
  rw [Statement.readNumbered, skip_append, Option.bind_eq_bind, Option.bind_some,
    number_digits edge.1 (by simp)]
  exact hedge

/-- The line of an operator is made of its number and an escaped label. -/
theorem operator_line_eq (node : GraphNode) (query : Int) (values : Values) :
    (operatorLine node query values).toList = "node_".toList ++ (digits node.id ++
      (" [label=\"".toList ++ ((label node query values).toList ++ '"' :: "];".toList))) := by
  simp [operatorLine, nodeName, int_text_nat]

/-- The line of an operator reads back as a node with the label of the operator. -/
theorem read_operator_line (node : GraphNode) (query : Int) (values : Values) :
    Statement.read (operatorLine node query values).toList =
      some (.node node.id (label node query values).toList) := by
  obtain ⟨text, hlabel⟩ := label_eq_escape node query values
  have hnode : Statement.readNode node.id
      (" [label=\"".toList ++ (escapeChars text ++ '"' :: "];".toList)) =
        some (.node node.id (escapeChars text)) := by
    rw [Statement.readNode, skip_append, Option.bind_eq_bind, Option.bind_some, quoted_escape]
    exact Statement.fixed_self "];" _
  rw [operator_line_eq, hlabel]
  show Statement.readNumbered ("node_".toList ++ (digits node.id ++
    (" [label=\"".toList ++ (escapeChars text ++ '"' :: "];".toList)))) = _
  rw [Statement.readNumbered, skip_append, Option.bind_eq_bind, Option.bind_some,
    number_digits node.id (by simp)]
  show (Statement.readNode node.id _ <|> _) = _
  rw [hnode]
  rfl

/-- The line that opens a cluster is made of its number. -/
theorem cluster_line_eq (id : Nat) :
    ("  subgraph cluster_" ++ intText id ++ " \x7b").toList =
      ' ' :: ' ' :: ("subgraph cluster_".toList ++ (digits id ++ " \x7b".toList)) := by
  simp [int_text_nat]

/-- The line that opens a cluster reads back as its opening. -/
theorem read_cluster_line (id : Nat) :
    Statement.read ("  subgraph cluster_" ++ intText id ++ " \x7b").toList =
      some (.cluster id) := by
  have hcluster : Statement.readCluster ("subgraph cluster_".toList ++
      (digits id ++ " \x7b".toList)) = some (.cluster id) := by
    rw [Statement.readCluster, skip_append, Option.bind_eq_bind, Option.bind_some,
      number_digits id (by simp)]
    exact Statement.fixed_self " \x7b" _
  rw [cluster_line_eq]
  show (Statement.readCluster ("subgraph cluster_".toList ++ (digits id ++ " \x7b".toList)) <|>
    _) = _
  rw [hcluster]
  rfl

/-- The line of a label reads back as the label. -/
theorem read_label_line (text : List Char) :
    Statement.read ("label=\"".toList ++ (escapeChars text ++ '"' :: ";".toList)) =
      some (.label (escapeChars text)) := by
  have hlabel : Statement.readLabel ("label=\"".toList ++ (escapeChars text ++ '"' :: ";".toList)) =
      some (.label (escapeChars text)) := by
    rw [Statement.readLabel, skip_append, Option.bind_eq_bind, Option.bind_some, quoted_escape]
    exact Statement.fixed_self ";" _
  show (Statement.readLabel ("label=\"".toList ++ (escapeChars text ++ '"' :: ";".toList)) <|>
    _) = _
  rw [hlabel]
  rfl

end SparkLog.Dot
