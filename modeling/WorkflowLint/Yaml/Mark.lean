/-!
# Marks: places in a text

A mark says how far a reader has come: how many characters it has passed, and the line and
column it stands on, all counted from zero. Marks are written for people, so the printed
line and column are counted from one.
-/

namespace WorkflowLint
namespace Yaml

/-- A place in a text, counted from zero. -/
structure Mark where
  index : Nat
  line : Nat
  column : Nat
  deriving DecidableEq, Repr, Inhabited

namespace Mark

/-- The place before the first character. -/
def origin : Mark :=
  ⟨0, 0, 0⟩

/-- The place after `n` more characters of the same line. -/
def right (m : Mark) (n : Nat) : Mark :=
  ⟨m.index + n, m.line, m.column + n⟩

/-- The place after one more character of the same line. -/
def next (m : Mark) : Mark :=
  m.right 1

/-- The start of the next line, after a line break of `width` characters. -/
def nextLine (m : Mark) (width : Nat) : Mark :=
  ⟨m.index + width, m.line + 1, 0⟩

/-- The mark stands at the start of the first line, a place that messages leave out. -/
def isOrigin (m : Mark) : Bool :=
  m.line == 0 && m.column == 0

/-- Two marks on the same line and column. -/
def sameSpot (m n : Mark) : Bool :=
  m.line == n.line && m.column == n.column

/-- The line and column as messages print them. -/
def describe (m : Mark) : String :=
  s!"line {m.line + 1} column {m.column + 1}"

/-- ` at line L column C`, or nothing at the start of the text. -/
def suffix (m : Mark) : String :=
  if m.isOrigin then "" else " at " ++ m.describe

end Mark

end Yaml
end WorkflowLint
