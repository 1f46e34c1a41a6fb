import Mathlib.Data.List.Basic
import WorkflowLint.Proofs.Numerals

/-!
# Lines — texts line by line

A text that is a line has no line feed (`Text.IsLine`). Texts in which every line ends with a line
feed are taken apart into lines and paragraphs, and lines that are put one under the other are
found again (`Text.lines_flatMap`).
-/

namespace WorkflowLint

namespace Text

/-! ## Texts of one line -/

/-- A text without line feeds. -/
def IsLine (s : String) : Prop :=
  '\n' ∉ s.toList

instance (s : String) : Decidable (IsLine s) :=
  inferInstanceAs (Decidable ('\n' ∉ s.toList))

@[simp] theorem isLine_append (s t : String) : IsLine (s ++ t) ↔ IsLine s ∧ IsLine t := by
  simp [IsLine]

@[simp] theorem isLine_ofList (cs : List Char) : IsLine (String.ofList cs) ↔ '\n' ∉ cs := by
  simp [IsLine]

/-- A literal is the text of its characters, which are looked through without decoding it. -/
theorem isLine_literal {cs : List Char} (h : '\n' ∉ cs) : IsLine (String.ofList cs) :=
  (isLine_ofList cs).2 h

theorem isLine_join {parts : List String} (h : ∀ part ∈ parts, IsLine part) :
    IsLine (String.join parts) := by
  simp only [IsLine, String.toList_join, List.mem_flatMap, not_exists, not_and]
  exact h

theorem newline_not_mem_toDigits {base : Nat} (hbase : 1 < base) (n : Nat) :
    '\n' ∉ Nat.toDigits base n := by
  have hdigit : ∀ d, Nat.digitChar d ≠ '\n' := by
    grind [Nat.digitChar]
  induction n using Nat.strongRecOn with
  | ind n ih =>
      by_cases hn : n < base
      · rw [Nat.toDigits_of_lt_base hn, List.mem_singleton]
        exact (hdigit n).symm
      · have hsmaller : n / base < n := Nat.div_lt_self (by omega) hbase
        rw [Nat.toDigits_of_base_le hbase (Nat.le_of_not_lt hn), List.mem_append,
          List.mem_singleton, not_or]
        exact ⟨ih (n / base) hsmaller, (hdigit (n % base)).symm⟩

@[simp] theorem isLine_toString (n : Nat) : IsLine (toString n) := by
  rw [IsLine, Nat.toString_eq_repr, Nat.toList_repr]
  exact newline_not_mem_toDigits (by decide) n

/-! ## Lines and paragraphs -/

/-- A line, without the line feed at its end. -/
abbrev Line := List Char

/-- The lines of a text in which every line ends with a line feed. -/
def lines (text : List Char) : List Line :=
  (text.splitOn '\n').dropLast

/-- The lines that stand together between empty lines. -/
def paragraphs (lines : List Line) : List (List Line) :=
  lines.splitOn []

theorem newline_not_mem_of_mem_splitOn (text : List Char) :
    ∀ line ∈ text.splitOn '\n', '\n' ∉ line := by
  induction text with
  | nil =>
      simp
  | cons c text ih =>
      rw [List.splitOn_cons_eq_if_modifyHead]
      split
      · next hbreak =>
        rw [List.forall_mem_cons]
        exact ⟨List.not_mem_nil, ih⟩
      · next hc =>
        -- the character goes to the front of the first line
        cases hlines : text.splitOn '\n' with
        | nil =>
            exact absurd hlines (List.splitOn_ne_nil _ _)
        | cons line rest =>
            rw [hlines, List.forall_mem_cons] at ih
            rw [List.modifyHead_cons, List.forall_mem_cons, List.mem_cons, not_or]
            exact ⟨⟨fun h => hc (beq_iff_eq.2 h.symm), ih.1⟩, ih.2⟩

/-- A line has no line feed. -/
theorem newline_not_mem_of_mem_lines {text : List Char} :
    ∀ line ∈ lines text, '\n' ∉ line := fun line hline =>
  newline_not_mem_of_mem_splitOn text line ((List.dropLast_prefix _).subset hline)

theorem lines_append_newline (part rest : List Char) :
    lines (part ++ '\n' :: rest) = part.splitOn '\n' ++ lines rest := by
  rw [lines, lines, List.splitOn_append_cons_self,
    List.dropLast_append_of_ne_nil (List.splitOn_ne_nil _ _)]

/-- Parts that are put one under the other keep their lines. -/
theorem lines_flatMap (parts : List (List Char)) :
    lines (parts.flatMap (· ++ ['\n'])) = parts.flatMap (List.splitOn '\n') := by
  induction parts with
  | nil =>
      rfl
  | cons part parts ih =>
      rw [List.flatMap_cons, List.append_assoc, List.singleton_append, lines_append_newline, ih,
        List.flatMap_cons]

theorem flatMap_splitOn_of_not_mem {parts : List (List Char)} (h : ∀ part ∈ parts, '\n' ∉ part) :
    parts.flatMap (List.splitOn '\n') = parts := by
  induction parts with
  | nil =>
      rfl
  | cons part parts ih =>
      rw [List.forall_mem_cons] at h
      rw [List.flatMap_cons, List.splitOn_eq_singleton h.1, ih h.2, List.singleton_append]

theorem paragraphs_append {paragraph : List Line} (h : [] ∉ paragraph) (rest : List Line) :
    paragraphs (paragraph ++ [] :: rest) = paragraph :: paragraphs rest :=
  List.splitOn_append_cons_self_of_not_mem h rest

theorem paragraphs_of_not_mem {paragraph : List Line} (h : [] ∉ paragraph) :
    paragraphs paragraph = [paragraph] :=
  List.splitOn_eq_singleton h

end Text

end WorkflowLint
