import Mathlib.Data.List.Basic
import SparkLog.Text.Split

/-!
# Pieces of texts

A text without separators is one piece (`pieces_whole`), and lines that are written one below the
other are the pieces of what is written (`pieces_lines`).
-/

namespace SparkLog.Text

variable {separator : Char}

/-- A text without separators is one piece. -/
theorem pieces_whole {cs : List Char} (h : separator ∉ cs) : pieces separator cs = [cs] := by
  induction cs with
  | nil => rfl
  | cons c cs ih =>
      obtain ⟨hc, hrest⟩ := not_or.mp (h ∘ List.mem_cons.mpr)
      rw [pieces, if_neg (Ne.symm hc), ih hrest]

/-- A line and what follows it are told apart by the separator between them. -/
theorem pieces_line {line : List Char} (h : separator ∉ line)
    (rest : List Char) :
    pieces separator (line ++ separator :: rest) = line :: pieces separator rest := by
  induction line with
  | nil => rw [List.nil_append, pieces, if_pos rfl]
  | cons c line ih =>
      obtain ⟨hc, hline⟩ := not_or.mp (h ∘ List.mem_cons.mpr)
      rw [List.cons_append, pieces, if_neg (Ne.symm hc), ih hline]

/-- The pieces of lines that are written one below the other are the lines, and an empty one at the
end. -/
theorem pieces_lines {lines : List (List Char)} (hlines : lines ≠ [])
    (h : ∀ line ∈ lines, separator ∉ line) :
    pieces separator ([separator].intercalate lines ++ [separator]) = lines ++ [[]] := by
  induction lines with
  | nil => exact absurd rfl hlines
  | cons line rest ih =>
      obtain ⟨hline, hrest⟩ := List.forall_mem_cons.mp h
      cases rest with
      | nil =>
          rw [List.intercalate_singleton, pieces_line hline]
          rfl
      | cons next rest =>
          rw [List.intercalate_cons_cons, List.append_assoc, List.append_assoc,
            List.singleton_append, pieces_line hline, ih (by simp) hrest]
          rfl

end SparkLog.Text
