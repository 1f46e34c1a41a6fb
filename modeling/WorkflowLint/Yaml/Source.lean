import WorkflowLint.Yaml.Character

/-!
# Sources: texts as they are read

A text is taken in blocks of 16384 octets of its UTF-8 form, each block ending before a
character that would not fit. A character that may not stand in a text is noticed when its
block is taken, that is, as soon as the reader wants any character of that block. A byte
order mark at the very start is a character like any other: it takes a column.
-/

namespace WorkflowLint
namespace Yaml

/-- The first character of a text that may not stand there. -/
structure Defect where
  /-- Octets before the character. -/
  offset : Nat
  /-- Characters in the blocks before the one that holds it: so many can be read. -/
  readable : Nat
  deriving DecidableEq, Repr

/-- The characters of a text, and its first defect. -/
structure Source where
  characters : List Char
  defect : Option Defect
  deriving Repr

/-- Octets in a block. -/
def blockSize : Nat :=
  16384

/-- Looks for the first defect. `offset` octets and `index` characters lie behind, the
present block began at character `start` and has `room` octets left. -/
def findDefect (offset index start room : Nat) : List Char → Option Defect
  | [] => none
  | c :: rest =>
    let width := c.utf8Size
    let fits := width ≤ room
    let start := if fits then start else index
    let room := if fits then room else blockSize
    if isAdmissible c then
      findDefect (offset + width) (index + 1) start (room - width) rest
    else
      some ⟨offset, start⟩

/-- The source that a string holds. -/
def Source.ofString (s : String) : Source :=
  let characters := s.toList
  ⟨characters, findDefect 0 0 0 blockSize characters⟩

end Yaml
end WorkflowLint
