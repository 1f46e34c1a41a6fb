import WorkflowLint.Yaml.Source
import WorkflowLint.Yaml.Token.Block
import WorkflowLint.Yaml.Token.Plain
import WorkflowLint.Yaml.Token.Quoted
import WorkflowLint.Yaml.Token.Tag

/-!
# From text to tokens

Structure that has no character of its own is made here. Indentation opens and closes block
collections, and a key without `?` is known as a key only when its `:` comes: until then its
place is remembered, and the tokens that mark it are put in afterwards. Such a key must stay
on one line and within 1024 characters.

Since a token that may still turn out to be a key is held back, an error found meanwhile also
takes that token away: the stream breaks off at the first token held back.
-/

namespace WorkflowLint
namespace Yaml

/-- A place where a key without `?` may have begun. -/
structure KeyPlace where
  /-- Tokens made before it. -/
  number : Nat
  mark : Mark
  /-- Indentation leaves no other reading. -/
  required : Bool
  deriving Repr

/-- How far a text has been turned into tokens. -/
structure Scanner where
  cursor : Cursor
  /-- The tokens made, the last one first. -/
  made : List Token
  count : Nat
  /-- The column of the innermost block collection, `-1` outside of all. -/
  indent : Int
  /-- The columns of the collections around it. -/
  indents : List Int
  /-- A key without `?` may begin here. -/
  keyAllowed : Bool
  /-- The place of a key in the innermost flow collection, or in the block around. -/
  key : Option KeyPlace
  /-- The places of keys outside the innermost flow collection, one for each level. -/
  outer : List (Option KeyPlace)

namespace Scanner

/-- At the beginning of a text. -/
def start (text : List Char) : Scanner where
  cursor := ⟨text, .origin⟩
  made := []
  count := 0
  indent := -1
  indents := []
  keyAllowed := true
  key := none
  outer := []

/-- Inside a flow collection. -/
def inFlow (s : Scanner) : Bool :=
  !s.outer.isEmpty

/-- The place of the character at hand. -/
def mark (s : Scanner) : Mark :=
  s.cursor.mark

/-- One more token. -/
def push (s : Scanner) (t : Token) : Scanner :=
  { s with made := t :: s.made, count := s.count + 1 }

/-- One more token in front of the token with a number. -/
def insert (s : Scanner) (number : Nat) (t : Token) : Scanner :=
  { s with made := s.made.insertIdx (s.count - number) t, count := s.count + 1 }

/-- A token of `n` characters. -/
def take (s : Scanner) (kind : TokenKind) (n : Nat) : Scanner :=
  let next := s.cursor.skip n
  { s.push ⟨kind, s.mark, next.mark⟩ with cursor := next }

/-- The first token that may still turn out to be a key, or else the token to come. -/
def held (s : Scanner) : Nat :=
  (s.key :: s.outer).foldl (fun n k => match k with | some p => min n p.number | none => n) s.count

/-! ## Keys without a question mark -/

/-- An error that is not about anything begun before. -/
def misplaced {α : Type} (s : Scanner) (problem : Problem) : Except SyntaxError α :=
  .error ⟨problem, s.mark, none⟩

/-- The error for a key that cannot be one any more, but has to be. -/
def missingColon {α : Type} (s : Scanner) (k : KeyPlace) : Except SyntaxError α :=
  .error ⟨.noKeyColon, s.mark, some (.simpleKey, k.mark)⟩

/-- The place is out of reach for a colon at the mark. -/
def isStale (m : Mark) (k : KeyPlace) : Bool :=
  k.mark.line < m.line || k.mark.index + 1024 < m.index

/-- Forgets the places of keys that are out of reach. -/
def dropStale (s : Scanner) : Except SyntaxError Scanner :=
  -- a place where a key has to be may not get out of reach
  match (s.key :: s.outer).findSome? fun k => k.filter fun k => isStale s.mark k && k.required with
  | some k => s.missingColon k
  | none =>
    let keep := fun k : Option KeyPlace => k.filter fun k => !isStale s.mark k
    .ok { s with key := keep s.key, outer := s.outer.map keep }

/-- Forgets the place of a key on the present level. -/
def dropKey (s : Scanner) : Except SyntaxError Scanner :=
  match s.key with
  | some k => if k.required then s.missingColon k else .ok { s with key := none }
  | none => .ok s

/-- Remembers that a key may begin here, if it may. -/
def saveKey (s : Scanner) : Except SyntaxError Scanner :=
  if s.keyAllowed then do
    -- a token at the column of a block collection can be nothing but a key
    let place := ⟨s.count, s.mark, !s.inFlow && s.indent == s.mark.column⟩
    let s ← s.dropKey
    return { s with key := some place }
  else
    .ok s

/-! ## Indentation -/

/-- A new block collection at a column that lies further right than the present one. Its
opening token stands in front of the token with the number, or comes next. -/
def openBlock (s : Scanner) (column : Nat) (number : Option Nat) (kind : TokenKind) (m : Mark) :
    Scanner :=
  if s.inFlow || !(s.indent < column) then s
  else
    let s := { s with indent := column, indents := s.indent :: s.indents }
    s.insert (number.getD s.count) ⟨kind, m, m⟩

/-- Closes the block collections of a list of columns, from `indent` down to a column. -/
def closeFrom (column : Int) (s : Scanner) (indent : Int) : List Int → Scanner
  | [] => { s with indent := indent, indents := [] }
  | outer :: rest =>
    if column < indent then
      closeFrom column (s.push ⟨.blockEnd, s.mark, s.mark⟩) outer rest
    else
      { s with indent := indent, indents := outer :: rest }

/-- Closes the block collections that lie further right than a column. -/
def closeBlocks (s : Scanner) (column : Int) : Scanner :=
  if s.inFlow then s else closeFrom column s s.indent s.indents

/-! ## Between tokens -/

/-- Past white space, comments and line breaks. A byte order mark at the beginning of a line
is white space. A new line outside flow collections may begin with a key; before such a key
tabs are no white space. -/
def skipBlank (inFlow : Bool) (keyAllowed inComment : Bool) : Mark → List Char → Bool × Cursor
  | m, [] => (keyAllowed, ⟨[], m⟩)
  | m, '\r' :: '\n' :: rest => skipBlank inFlow (keyAllowed || !inFlow) false (m.nextLine 2) rest
  | m, x :: rest =>
    if isBreak x then
      skipBlank inFlow (keyAllowed || !inFlow) false (m.nextLine 1) rest
    -- inside a comment everything up to the end of the line is passed by
    else if inComment || x == ' ' || (x == '\t' && (inFlow || !keyAllowed)) ||
        (x == '\uFEFF' && m.column == 0) then
      skipBlank inFlow keyAllowed inComment m.next rest
    else if x == '#' then
      skipBlank inFlow keyAllowed true m.next rest
    else
      (keyAllowed, ⟨x :: rest, m⟩)

/-- At the next token. -/
def skip (s : Scanner) : Scanner :=
  let (keyAllowed, cursor) := skipBlank s.inFlow s.keyAllowed false s.mark s.cursor.rest
  { s with keyAllowed := keyAllowed, cursor := cursor }

/-! ## Tokens -/

/-- The end of the text, which counts as the beginning of a line. -/
def atEnd (s : Scanner) : Except SyntaxError Scanner := do
  let m := s.mark
  let m := if m.column == 0 then m else ⟨m.index, m.line + 1, 0⟩
  let s := { s with cursor := ⟨s.cursor.rest, m⟩ }
  let s ← (s.closeBlocks (-1)).dropKey
  return { s.push ⟨.streamEnd, m, m⟩ with keyAllowed := false }

/-- A directive or a document marker: it ends all block collections. -/
def atMargin (s : Scanner) : Except SyntaxError Scanner := do
  let s ← (s.closeBlocks (-1)).dropKey
  return { s with keyAllowed := false }

def readDirective (s : Scanner) : Except SyntaxError Scanner := do
  let s ← s.atMargin
  let (t, cursor) ← Directive.read s.cursor
  return { s.push t with cursor := cursor }

/-- A document marker. -/
def readMarker (s : Scanner) (kind : TokenKind) : Except SyntaxError Scanner := do
  return (← s.atMargin).take kind 3

/-- An opening bracket or brace. -/
def openFlow (s : Scanner) (kind : TokenKind) : Except SyntaxError Scanner := do
  let s ← s.saveKey
  return { s with key := none, outer := s.key :: s.outer, keyAllowed := true }.take kind 1

/-- A closing bracket or brace. -/
def closeFlow (s : Scanner) (kind : TokenKind) : Except SyntaxError Scanner := do
  let s ← s.dropKey
  let s := match s.outer with
    | k :: rest => { s with key := k, outer := rest }
    -- a bracket that closes nothing is left to the grammar
    | [] => s
  return { s with keyAllowed := false }.take kind 1

def readFlowEntry (s : Scanner) : Except SyntaxError Scanner := do
  return { (← s.dropKey) with keyAllowed := true }.take .flowEntry 1

/-- `-` before a blank. In a flow collection the grammar refuses it. -/
def readBlockEntry (s : Scanner) : Except SyntaxError Scanner := do
  if !s.inFlow && !s.keyAllowed then
    s.misplaced .blockEntryMisplaced
  else
    let s := s.openBlock s.mark.column none .blockSequenceStart s.mark
    return { (← s.dropKey) with keyAllowed := true }.take .blockEntry 1

/-- `?` before a blank. -/
def readKey (s : Scanner) : Except SyntaxError Scanner := do
  if !s.inFlow && !s.keyAllowed then
    s.misplaced .keyMisplaced
  else
    let s := s.openBlock s.mark.column none .blockMappingStart s.mark
    return { (← s.dropKey) with keyAllowed := !s.inFlow }.take .key 1

/-- `:` after a key. If a key without `?` may have begun, it has. -/
def readValue (s : Scanner) : Except SyntaxError Scanner :=
  match s.key with
  | some k =>
    -- the tokens that mark the key stand before it, though they are made only now
    let s := s.insert k.number ⟨.key, k.mark, k.mark⟩
    let s := s.openBlock k.mark.column (some k.number) .blockMappingStart k.mark
    .ok ({ s with key := none, keyAllowed := false }.take .value 1)
  | none =>
    if !s.inFlow && !s.keyAllowed then
      s.misplaced .valueMisplaced
    else
      let s := s.openBlock s.mark.column none .blockMappingStart s.mark
      .ok ({ s with keyAllowed := !s.inFlow }.take .value 1)

/-- An anchor or an alias. -/
def readName (s : Scanner) (activity : Activity) (kind : String → TokenKind) :
    Except SyntaxError Scanner := do
  let s := { (← s.saveKey) with keyAllowed := false }
  let (name, cursor) := s.cursor.next.span isNameChar
  -- what follows may not look like more of the name
  let ends := cursor.endsWordAt 0 ||
    cursor.rest.head?.any fun x => "?:,]\x7d%@\x60".toList.contains x
  if name.isEmpty || !ends then
    .error ⟨.noNameChar, cursor.mark, some (activity, s.mark)⟩
  else
    return { s.push ⟨kind (String.ofList name), s.mark, cursor.mark⟩ with cursor := cursor }

def readTag (s : Scanner) : Except SyntaxError Scanner := do
  let s := { (← s.saveKey) with keyAllowed := false }
  let ((handle, rest), cursor) ← Tag.read s.inFlow s.cursor
  return { s.push ⟨.tag handle rest, s.mark, cursor.mark⟩ with cursor := cursor }

def readBlockScalar (s : Scanner) (style : ScalarStyle) : Except SyntaxError Scanner := do
  let s ← s.dropKey
  let (text, cursor) ← BlockScalar.read (style == .literal) s.indent s.cursor
  return { s.push ⟨.scalar style text, s.mark, cursor.mark⟩ with
    cursor := cursor, keyAllowed := true }

def readQuoted (s : Scanner) (style : ScalarStyle) : Except SyntaxError Scanner := do
  let s ← s.saveKey
  let (text, cursor) ← QuotedScalar.read (style == .singleQuoted) s.cursor
  return { s.push ⟨.scalar style text, s.mark, cursor.mark⟩ with
    cursor := cursor, keyAllowed := false }

/-- A plain scalar. -/
def readPlain (s : Scanner) : Except SyntaxError Scanner := do
  let s ← s.saveKey
  let scalar ← PlainScalar.read s.inFlow (s.indent + 1) s.cursor
  return { s.push ⟨.scalar .plain scalar.text, s.mark, scalar.next.mark⟩ with
    cursor := scalar.next, keyAllowed := scalar.onNewLine }

/-- The token that begins with a character. -/
def readToken (s : Scanner) (x : Char) : Except SyntaxError Scanner :=
  let margin := s.mark.column == 0
  let apart := s.cursor.endsWordAt 1
  -- directives and markers count at the margin only
  if margin && x == '%' then s.readDirective
  else if margin && startsWithMarker '-' s.cursor.rest then s.readMarker .documentStart
  else if margin && startsWithMarker '.' s.cursor.rest then s.readMarker .documentEnd
  else if x == '[' then s.openFlow .flowSequenceStart
  else if x == '{' then s.openFlow .flowMappingStart
  else if x == ']' then s.closeFlow .flowSequenceEnd
  else if x == '}' then s.closeFlow .flowMappingEnd
  else if x == ',' then s.readFlowEntry
  else if x == '-' && apart then s.readBlockEntry
  -- in a flow collection these two need no blank after them
  else if x == '?' && (s.inFlow || apart) then s.readKey
  else if x == ':' && (s.inFlow || apart) then s.readValue
  else if x == '*' then s.readName .alias .alias
  else if x == '&' then s.readName .anchor .anchor
  else if x == '!' then s.readTag
  else if x == '|' && !s.inFlow then s.readBlockScalar .literal
  else if x == '>' && !s.inFlow then s.readBlockScalar .folded
  else if x == '\'' then s.readQuoted .singleQuoted
  else if x == '"' then s.readQuoted .doubleQuoted
  else if "\t#|>%@\x60".toList.contains x then
    .error ⟨.noTokenStart, s.mark, some (.nextToken, s.mark)⟩
  else s.readPlain

/-- The tokens up to the next one that stands for characters; at the end of the text
`false`. -/
def step (s : Scanner) : Except SyntaxError (Scanner × Bool) := do
  let s ← s.skip.dropStale
  -- the column of the next token tells which collections have ended
  let s := s.closeBlocks s.mark.column
  match s.cursor.rest with
  | [] => return (← (← s.atEnd).dropStale, false)
  | x :: _ => return (← (← s.readToken x).dropStale, true)

/-- The defect of a text comes in the way of reading on from a place to a place. A token can
be told only with the four characters from its beginning. -/
def isBlocked (defect : Option Defect) (first last : Mark) : Option Error :=
  match defect with
  | some d =>
    if d.readable < max (first.index + 4) (last.index + 1) then some (.inadmissible d.offset)
    else none
  | none => none

def breakOff (s : Scanner) (e : Error) : TokenStream :=
  ⟨s.made.reverse.take s.held, some e⟩

/-- Reads on to the end of the text. Every step but the last one takes characters, so there are
no more steps than characters left, and one at the end. -/
def run (defect : Option Defect) : Nat → Scanner → TokenStream
  | 0, s => ⟨s.made.reverse, none⟩
  | left + 1, s =>
    let begin := s.skip.mark
    match s.step with
    -- a defect that comes in the way hides every other error
    | .error e => s.breakOff ((isBlocked defect begin e.place).getD (.malformed e))
    | .ok (t, more) =>
      match isBlocked defect begin t.mark with
      | some e => s.breakOff e
      | none => if more then run defect left t else ⟨t.made.reverse, none⟩

end Scanner

def TokenStream.ofSource (s : Source) : TokenStream :=
  Scanner.run s.defect (s.characters.length + 1) (Scanner.start s.characters)

end Yaml
end WorkflowLint
