import WorkflowLint.Yaml.Token
import WorkflowLint.Yaml.Token.Cursor

/-!
# Plain scalars

A plain scalar is a run of words without quotes. It ends before `: `, before a comment,
before a document marker, before a line that is not indented enough and, inside a flow
collection, before the characters that structure the collection.
-/

namespace WorkflowLint
namespace Yaml

/-- A scalar that has been read, and whether the cursor went on to a new line after it. -/
structure PlainScalar where
  text : String
  onNewLine : Bool
  next : Cursor

namespace PlainScalar

/-- What surrounds a plain scalar. -/
structure Setting where
  inFlow : Bool
  /-- Columns that a line of the scalar must be indented by at least. -/
  indent : Int
  start : Mark

/-- A colon that is followed by what structures a flow collection. -/
def strandedColon (s : Setting) (x : Char) (after : Option Char) : Bool :=
  s.inFlow && x == ':' &&
    match after with
    | some y => isFlowIndicator y || y == '?'
    | none => false

/-- A character that ends the scalar. -/
def isStop (s : Setting) (x : Char) (after : Option Char) : Bool :=
  (x == ':' && endsWord after) || (s.inFlow && isFlowIndicator x)

/-- What ends the scalar at the beginning of a word: a line that is not indented enough, a
document marker or a comment. -/
def isStopAfterGap (s : Setting) (gap : Gap) (m : Mark) (text : List Char) : Bool :=
  (gap.isBroken && !s.inFlow && m.column < s.indent) ||
    (m.column == 0 && startsWithDocumentMarker text) || text.head? == some '#'

/-- Reads on from a character inside or after `text`. After a word `gap` is `none`; between
words it is the white space since the last one, which is kept only if another word follows. -/
def scan (s : Setting) (text : String) :
    Option Gap → Mark → List Char → Except SyntaxError PlainScalar
  | gap, m, [] => .ok ⟨text, (gap.getD .none).isBroken, ⟨[], m⟩⟩
  | gap, m, '\r' :: '\n' :: rest =>
    scan s text (some ((gap.getD .none).addBreak '\n')) (m.nextLine 2) rest
  | gap, m, x :: rest =>
    let g := gap.getD .none
    if isBlank x then
      -- tabs do not indent
      if g.isBroken && m.column < s.indent && x == '\t' then
        .error ⟨.tabInIndentation, m, some (.plainScalar, s.start)⟩
      else
        scan s text (some (g.addBlank x)) m.next rest
    else if isBreak x then
      scan s text (some (g.addBreak x)) (m.nextLine 1) rest
    else if gap.isSome && isStopAfterGap s g m (x :: rest) then
      .ok ⟨text, g.isBroken, ⟨x :: rest, m⟩⟩
    else if strandedColon s x rest.head? then
      .error ⟨.unexpectedColon, m, some (.plainScalar, s.start)⟩
    else if isStop s x rest.head? then
      .ok ⟨text, g.isBroken, ⟨x :: rest, m⟩⟩
    else
      scan s ((text ++ g.fold).push x) none m.next rest

/-- The plain scalar that begins at a cursor. -/
def read (inFlow : Bool) (indent : Int) (c : Cursor) : Except SyntaxError PlainScalar :=
  scan ⟨inFlow, indent, c.mark⟩ "" (some .none) c.mark c.rest

end PlainScalar

end Yaml
end WorkflowLint
