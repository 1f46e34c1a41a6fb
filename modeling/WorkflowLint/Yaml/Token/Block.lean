import WorkflowLint.Yaml.Token
import WorkflowLint.Yaml.Token.Cursor

/-!
# Block scalars

A block scalar is a header and the indented lines below it. The header may fix the
indentation and say what becomes of line breaks at the end; without a fixed indentation the
first line that is not empty sets it. A literal scalar keeps its lines, a folded one joins
neighbouring lines that do not begin with a blank.
-/

namespace WorkflowLint
namespace Yaml

namespace BlockScalar

/-- What becomes of line breaks at the end: the first is kept, none is, or all are. -/
inductive Chomping
  | clip
  | strip
  | keep
  deriving DecidableEq, Repr

/-- What the header says. -/
structure Header where
  chomping : Chomping
  /-- Columns beyond the surrounding indentation. -/
  indent : Option Nat

/-- A problem inside a scalar that began at `start`. -/
def fail {α : Type} (problem : Problem) (place start : Mark) : Except SyntaxError α :=
  .error ⟨problem, place, some (.blockScalar, start)⟩

/-- The sign of a header. -/
def sign? (c : Cursor) : Option Chomping :=
  if c.at? '+' then some .keep else if c.at? '-' then some .strip else none

/-- The digit of a header; zero is refused. -/
def digit? (start : Mark) (c : Cursor) : Except SyntaxError (Option Nat) :=
  match c.head? with
  | some x =>
    if x == '0' then fail .zeroIndentation c.mark start
    else if x.isDigit then .ok (some (x.toNat - '0'.toNat))
    else .ok none
  | none => .ok none

/-- The sign and the digit, in either order, each at most once. -/
def readHeader (start : Mark) (c : Cursor) : Except SyntaxError (Header × Cursor) := do
  match sign? c with
  | some chomping =>
    let c := c.next
    match ← digit? start c with
    | some n => return (⟨chomping, some n⟩, c.next)
    | none => return (⟨chomping, none⟩, c)
  | none =>
    match ← digit? start c with
    | some n =>
      let c := c.next
      match sign? c with
      | some chomping => return (⟨chomping, some n⟩, c.next)
      | none => return (⟨.clip, some n⟩, c)
    | none => return (⟨.clip, none⟩, c)

/-- Line breaks before the first line that is not empty, and the greatest column reached by
spaces. -/
def leading (start : Mark) (breaks : String) (reach : Nat) :
    Mark → List Char → Except SyntaxError (String × Nat × Cursor)
  | m, [] => .ok (breaks, max reach m.column, ⟨[], m⟩)
  | m, '\r' :: '\n' :: rest =>
    leading start (breaks.push '\n') (max reach m.column) (m.nextLine 2) rest
  | m, x :: rest =>
    if x == ' ' then
      leading start breaks reach m.next rest
    else if x == '\t' then
      fail .tabInBlockIndentation m start
    else if isBreak x then
      leading start (breaks.push (breakText x)) (max reach m.column) (m.nextLine 1) rest
    else
      .ok (breaks, max reach m.column, ⟨x :: rest, m⟩)

/-- The lines read so far. -/
structure Body where
  text : String
  /-- The break at the end of the last line; empty before the first line, and where the text
  ends without a break. -/
  last : String
  /-- Line breaks of empty lines after it. -/
  empty : String
  /-- The last line began with a blank. -/
  blank : Bool

/-- The body at the beginning of a line, with the breaks before the line settled. -/
def Body.settle (literal : Bool) (b : Body) (blank : Bool) : Body :=
  -- folding: a single break between lines of words is a space, of several the first one goes
  let join := !literal && b.last == "\n" && !b.blank && !blank
  let between := if join then (if b.empty == "" then " " else "") else b.last
  ⟨b.text ++ between ++ b.empty, "", "", blank⟩

/-- How a scalar is read. -/
structure Setting where
  literal : Bool
  indent : Nat
  start : Mark

/-- Reads on within the lines of a scalar; `inLine` tells a line's content from what comes
before it. -/
def scan (s : Setting) (b : Body) :
    Bool → Mark → List Char → Except SyntaxError (Body × Cursor)
  | _, m, [] => .ok (b, ⟨[], m⟩)
  | true, m, '\r' :: '\n' :: rest =>
    scan s { b with last := "\n" } false (m.nextLine 2) rest
  | true, m, x :: rest =>
    if isBreak x then
      scan s { b with last := (breakText x).toString } false (m.nextLine 1) rest
    else
      scan s { b with text := b.text.push x } true m.next rest
  | false, m, '\r' :: '\n' :: rest =>
    scan s { b with empty := b.empty.push '\n' } false (m.nextLine 2) rest
  | false, m, x :: rest =>
    if x == ' ' && m.column < s.indent then
      scan s b false m.next rest
    else if x == '\t' && m.column < s.indent then
      fail .tabInBlockIndentation m s.start
    else if isBreak x then
      scan s { b with empty := b.empty.push (breakText x) } false (m.nextLine 1) rest
    -- the content of a line begins at the column of the scalar, with a blank or not
    else if m.column == s.indent then
      let b := b.settle s.literal (isBlank x)
      scan s { b with text := b.text.push x } true m.next rest
    else
      .ok (b, ⟨x :: rest, m⟩)

/-- The text of a body under a rule for the breaks at its end. -/
def Body.finish (b : Body) : Chomping → String
  | .strip => b.text
  | .clip => b.text ++ b.last
  | .keep => b.text ++ b.last ++ b.empty

/-- The column of a scalar's lines: as far beyond the surrounding column as the header says,
or else where the first line begins, but beyond the surrounding column in any case. -/
def lineColumn (surrounding : Int) (fixed : Option Nat) (reach : Nat) : Nat :=
  match fixed with
  | some n => (max surrounding 0).toNat + n
  | none => (max (max (reach : Int) (surrounding + 1)) 1).toNat

/-- The block scalar whose `|` or `>` is at the cursor, where `surrounding` is the column of
the collection around it. -/
def read (literal : Bool) (surrounding : Int) (c : Cursor) :
    Except SyntaxError (String × Cursor) := do
  let start := c.mark
  let (header, c) ← readHeader start c.next
  let c := c.dropBlanks.dropComment
  if !c.atLineEnd then
    fail .noLineEnd c.mark start
  else
    let c := c.dropBreak
    let (breaks, reach, c) ←
      -- with a fixed indentation, empty lines at the start are lines like others
      if header.indent.isSome then pure ("", 0, c) else leading start "" 0 c.mark c.rest
    let setting := ⟨literal, lineColumn surrounding header.indent reach, start⟩
    let (body, c) ← scan setting ⟨"", "", breaks, false⟩ false c.mark c.rest
    return (body.finish header.chomping, c)

end BlockScalar

end Yaml
end WorkflowLint
