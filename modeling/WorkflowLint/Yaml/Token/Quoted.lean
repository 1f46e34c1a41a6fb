import WorkflowLint.Yaml.Token
import WorkflowLint.Yaml.Token.Cursor

/-!
# Quoted scalars

Between single quotes only the quote itself is special, and is written twice. Between double
quotes a backslash begins an escape: a letter for a control character, a code point in
hexadecimal, or a line break that does not count. In both forms line breaks are folded.
-/

namespace WorkflowLint
namespace Yaml

namespace QuotedScalar

/-- What stands for itself or for one character after a backslash. -/
def escapeChar? (x : Char) : Option Char :=
  match x with
  | '0' => some '\x00'
  | 'a' => some '\x07'
  | 'b' => some '\x08'
  | 't' => some '\t'
  | '\t' => some '\t'
  | 'n' => some '\n'
  | 'v' => some '\x0b'
  | 'f' => some '\x0c'
  | 'r' => some '\r'
  | 'e' => some '\x1b'
  | ' ' => some ' '
  | '"' => some '"'
  | '/' => some '/'
  | '\\' => some '\\'
  | 'N' => some '\u0085'
  | '_' => some '\u00a0'
  | 'L' => some '\u2028'
  | 'P' => some '\u2029'
  | _ => none

/-- How many hexadecimal digits a letter announces. -/
def escapeLength? (x : Char) : Option Nat :=
  match x with
  | 'x' => some 2
  | 'u' => some 4
  | 'U' => some 8
  | _ => none

/-- A code point that stands for a character. -/
def codePoint? (n : Nat) : Option Char :=
  if h : n.isValidChar then some (Char.ofNatAux n h) else none

/-- A problem inside a scalar that began at `start`. -/
def fail {α : Type} (problem : Problem) (place : Mark) (during : Activity) (start : Mark) :
    Except SyntaxError α :=
  .error ⟨problem, place, some (during, start)⟩

/-- A document marker at the start of a line, which must not stand inside quotes. -/
def atDocumentMarker (m : Mark) (text : List Char) : Bool :=
  m.column == 0 && startsWithDocumentMarker text

/-! ## Single quotes -/

/-- Reads on after a single quote. `text` goes up to the last word, `gap` is the white space
since then. -/
def scanSingle (start : Mark) (text : String) (gap : Gap) :
    Mark → List Char → Except SyntaxError (String × Cursor)
  | m, [] => fail .unexpectedEnd m .quotedScalar start
  | m, '\r' :: '\n' :: rest =>
    scanSingle start text (gap.addBreak '\n') (m.nextLine 2) rest
  | m, '\'' :: '\'' :: rest =>
    scanSingle start ((text ++ gap.fold).push '\'') .none (m.right 2) rest
  | m, x :: rest =>
    if isBlank x then
      scanSingle start text (gap.addBlank x) m.next rest
    else if isBreak x then
      scanSingle start text (gap.addBreak x) (m.nextLine 1) rest
    else if atDocumentMarker m (x :: rest) then
      fail .documentMarkerInside m .quotedScalar start
    else if x == '\'' then
      .ok (text ++ gap.fold, ⟨rest, m.next⟩)
    else
      scanSingle start ((text ++ gap.fold).push x) .none m.next rest

/-! ## Double quotes -/

/-- A code point being read: the digits still wanted, the value so far, and where the digits
began. -/
structure Escape where
  left : Nat
  value : Nat
  start : Mark

/-- Reads on after a double quote, or inside the digits of a code point. -/
def scanDouble (start : Mark) (text : String) (gap : Gap) :
    Option Escape → Mark → List Char → Except SyntaxError (String × Cursor)
  | some e, _, [] => fail .noHexNumber e.start .quotedEscape start
  | none, m, [] => fail .unexpectedEnd m .quotedScalar start
  | some e, m, x :: rest =>
    match hexValue? x with
    | none => fail .noHexNumber e.start .quotedEscape start
    | some d =>
      let value := e.value * 16 + d
      if 1 < e.left then
        scanDouble start text gap (some ⟨e.left - 1, value, e.start⟩) m.next rest
      else
        -- that was the last digit
        match codePoint? value with
        | none => fail .badCodePoint e.start .quotedEscape start
        | some c => scanDouble start (text.push c) gap none m.next rest
  | none, m, '\r' :: '\n' :: rest =>
    scanDouble start text (gap.addBreak '\n') none (m.nextLine 2) rest
  -- a line break after a backslash joins the lines without a blank
  | none, m, '\\' :: '\r' :: '\n' :: rest =>
    scanDouble start (text ++ gap.fold) (.breaks "" "") none (m.next.nextLine 2) rest
  | none, m, '\\' :: y :: rest =>
    let text := text ++ gap.fold
    if isBreak y then
      scanDouble start text (.breaks "" "") none (m.next.nextLine 1) rest
    else
      match escapeChar? y, escapeLength? y with
      | some c, _ => scanDouble start (text.push c) .none none (m.right 2) rest
      | none, some n =>
        scanDouble start text .none (some ⟨n, 0, m.right 2⟩) (m.right 2) rest
      | none, none => fail .unknownEscape m .quotedEscape start
  | none, m, x :: rest =>
    if isBlank x then
      scanDouble start text (gap.addBlank x) none m.next rest
    else if isBreak x then
      scanDouble start text (gap.addBreak x) none (m.nextLine 1) rest
    else if atDocumentMarker m (x :: rest) then
      fail .documentMarkerInside m .quotedScalar start
    else if x == '"' then
      .ok (text ++ gap.fold, ⟨rest, m.next⟩)
    else if x == '\\' then
      fail .unknownEscape m .quotedEscape start
    else
      scanDouble start ((text ++ gap.fold).push x) .none none m.next rest

/-- The quoted scalar whose opening quote is at the cursor. -/
def read (single : Bool) (c : Cursor) : Except SyntaxError (String × Cursor) :=
  let inside := c.next
  if single then scanSingle c.mark "" .none inside.mark inside.rest
  else scanDouble c.mark "" .none none inside.mark inside.rest

end QuotedScalar

end Yaml
end WorkflowLint
