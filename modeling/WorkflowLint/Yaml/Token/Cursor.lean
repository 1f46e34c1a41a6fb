import WorkflowLint.Yaml.Character
import WorkflowLint.Yaml.Mark

/-!
# Cursors: what is left of a text, and where it begins

A reader moves a cursor to the right. Runs of characters of one line are taken by `span`,
which splits what is left; a line break is taken by `breakLine`, which also says what text
the break stands for.
-/

namespace WorkflowLint
namespace Yaml

/-- The rest of a text and the place where it begins. -/
structure Cursor where
  rest : List Char
  mark : Mark
  deriving Repr

namespace Cursor

/-- The character at hand. -/
def head? (c : Cursor) : Option Char :=
  c.rest.head?

/-- The cursor stands at this character. -/
def at? (c : Cursor) (x : Char) : Bool :=
  c.rest.head? == some x

/-- Past one character that is no line break. -/
def next (c : Cursor) : Cursor :=
  ⟨c.rest.drop 1, c.mark.next⟩

/-- Past `n` characters that are no line breaks. -/
def skip (c : Cursor) (n : Nat) : Cursor :=
  ⟨c.rest.drop n, c.mark.right n⟩

/-- The longest run of characters with a property, and what follows it. -/
def span (p : Char → Bool) (c : Cursor) : List Char × Cursor :=
  let run := c.rest.takeWhile p
  (run, ⟨c.rest.dropWhile p, c.mark.right run.length⟩)

/-- Past the longest run of characters with a property. -/
def dropWhile (p : Char → Bool) (c : Cursor) : Cursor :=
  (c.span p).2

/-- Past spaces and tabs. -/
def dropBlanks (c : Cursor) : Cursor :=
  c.dropWhile isBlank

/-- Past a comment, if one begins here. -/
def dropComment (c : Cursor) : Cursor :=
  if c.at? '#' then c.dropWhile (!isBreak ·) else c

/-- The cursor stands at the end of a line. -/
def atLineEnd (c : Cursor) : Bool :=
  match c.rest with
  | [] => true
  | x :: _ => isBreak x

/-- Past a line break, if one is at hand. -/
def dropBreak (c : Cursor) : Cursor :=
  match c.rest with
  | '\r' :: '\n' :: rest => ⟨rest, c.mark.nextLine 2⟩
  | x :: rest => if isBreak x then ⟨rest, c.mark.nextLine 1⟩ else c
  | [] => c

/-- A word ends `n` characters further on. -/
def endsWordAt (c : Cursor) (n : Nat) : Bool :=
  endsWord (c.rest.drop n).head?

end Cursor

/-- The text that a line break stands for: a line feed, but the separators U+2028 and U+2029
stand for themselves. -/
def breakText (x : Char) : Char :=
  if x == '\u2028' || x == '\u2029' then x else '\n'

/-- The white space between two words of a scalar: blanks within a line, or line breaks, the
first of which may turn into a space. -/
inductive Gap
  | blanks (text : String)
  | breaks (first more : String)
  deriving DecidableEq, Repr

namespace Gap

/-- No white space. -/
def none : Gap :=
  .blanks ""

/-- The gap goes past the end of a line. -/
def isBroken : Gap → Bool
  | .blanks _ => false
  | .breaks _ _ => true

/-- The gap with one more blank; blanks at the start of a line do not count. -/
def addBlank (x : Char) : Gap → Gap
  | .blanks text => .blanks (text.push x)
  | g => g

/-- The gap with one more line break. -/
def addBreak (x : Char) : Gap → Gap
  | .blanks _ => .breaks (breakText x).toString ""
  | .breaks first more => .breaks first (more.push (breakText x))

/-- The text that a gap stands for: a single line feed is a space, and the first of several
is dropped. -/
def fold : Gap → String
  | .blanks text => text
  | .breaks first more =>
    if first == "\n" then (if more == "" then " " else more) else first ++ more

end Gap

end Yaml
end WorkflowLint
