import WorkflowLint.Yaml.Token
import WorkflowLint.Yaml.Token.Cursor

/-!
# Tags and directives

A tag is written as `!<uri>`, as a handle and the rest of a name (`!handle!rest`), or as a
local name (`!rest`). The rest may hold octets as `%` and two hexadecimal digits; the octets
must have the shape of UTF-8 sequences, and an octet zero ends the name. A directive line
gives the version of the notation or binds a handle to the beginning of a name.
-/

namespace WorkflowLint
namespace Yaml

namespace Tag

/-! ## Names with escaped octets -/

/-- Characters of a tag's name; the last three only where the name stands by itself. -/
def isUriChar (alone : Bool) (c : Char) : Bool :=
  isNameChar c || ";/?:@&=+$.!~*'()".toList.contains c || (alone && ",[]".toList.contains c)

/-- How many octets follow a leading octet. -/
def following? (octet : Nat) : Option Nat :=
  if octet < 0x80 then some 0
  else if octet / 0x20 == 0x06 then some 1
  else if octet / 0x10 == 0x0E then some 2
  else if octet / 0x08 == 0x1E then some 3
  else none

/-- The value of two hexadecimal digits. -/
def octet? (a b : Char) : Option Nat :=
  match hexValue? a, hexValue? b with
  | some x, some y => some (x * 16 + y)
  | _, _ => none

/-- How a name is read: which characters belong to it, and what to call the reading. -/
structure Setting where
  alone : Bool
  during : Activity
  start : Mark

/-- A problem inside a name. -/
def Setting.fail {α : Type} (s : Setting) (problem : Problem) (place : Mark) :
    Except SyntaxError α :=
  .error ⟨problem, place, some (s.during, s.start)⟩

/-- Reads on inside a name. `pending` octets are still wanted to complete a sequence; `octets`
is the name so far, the last octet first. -/
def scanUri (s : Setting) (octets : Octets) :
    Nat → Mark → List Char → Except SyntaxError (Octets × Cursor)
  | 0, m, '%' :: a :: b :: rest =>
    match octet? a b with
    | none => s.fail .noUriOctet m
    | some o =>
      match following? o with
      | none => s.fail .badLeadingOctet m
      | some n => scanUri s (o.toUInt8 :: octets) n (m.right 3) rest
  | n + 1, m, '%' :: a :: b :: rest =>
    match octet? a b with
    | none => s.fail .noUriOctet m
    | some o =>
      if o / 0x40 == 0x02 then scanUri s (o.toUInt8 :: octets) n (m.right 3) rest
      else s.fail .badTrailingOctet m
  | 0, m, c :: rest =>
    if c == '%' then s.fail .noUriOctet m
    else if isUriChar s.alone c then scanUri s (c.toNat.toUInt8 :: octets) 0 m.next rest
    else .ok (octets.reverse, ⟨c :: rest, m⟩)
  | 0, m, [] => .ok (octets.reverse, ⟨[], m⟩)
  | _ + 1, m, _ => s.fail .noUriOctet m

/-- The name at a cursor, after what is already known of it. A name that has nothing at all,
neither known nor read, is refused. -/
def readUri (s : Setting) (known : Option String) (c : Cursor) :
    Except SyntaxError (Octets × Cursor) := do
  let (octets, rest) ← scanUri s [] 0 c.mark c.rest
  if known.isNone && octets.isEmpty then
    s.fail .noTagUri rest.mark
  else
    let head := Octets.ofString (String.ofList ((known.getD "").toList.drop 1))
    return ((head ++ octets).takeWhile (· != 0), rest)

/-! ## Handles -/

/-- The characters from `!` to a second `!`, or to the end of a word without one. -/
def readHandle (c : Cursor) : Option (String × Cursor) :=
  if c.at? '!' then
    let (name, c) := c.next.span isNameChar
    if c.at? '!' then some ("!" ++ String.ofList name ++ "!", c.next)
    else some ("!" ++ String.ofList name, c)
  else none

/-- A handle proper: it has an end of its own. -/
def isHandle (h : String) : Bool :=
  2 ≤ h.length && h.endsWith "!"

/-- A problem inside a tag that began at `start`. -/
def fail {α : Type} (problem : Problem) (place start : Mark) : Except SyntaxError α :=
  .error ⟨problem, place, some (.tag, start)⟩

/-- The tag at the cursor: its handle, empty for a full name, and the rest of its name. A lone
`!` is a full name. -/
def read (inFlow : Bool) (c : Cursor) : Except SyntaxError ((String × Octets) × Cursor) := do
  let start := c.mark
  let (tag, c) ←
    if (c.rest.drop 1).head? == some '<' then do
      let (uri, c) ← readUri ⟨true, .tagUri, start⟩ none (c.skip 2)
      if c.at? '>' then pure (("", uri), c.next) else fail .noTagEnd c.mark start
    else
      match readHandle c with
      | none => fail .noHandleMark c.mark start
      | some (handle, c) =>
        if isHandle handle then do
          let (rest, c) ← readUri ⟨false, .tagUri, start⟩ none c
          pure ((handle, rest), c)
        else do
          let (rest, c) ← readUri ⟨false, .tagUri, start⟩ (some handle) c
          pure (if rest.isEmpty then ("", Octets.ofString "!") else ("!", rest), c)
  if c.endsWordAt 0 || (inFlow && c.at? ',') then return (tag, c)
  else fail .noWhitespaceOrBreak c.mark start

end Tag

namespace Directive

/-- A problem inside a directive that began at `start`. -/
def fail {α : Type} (problem : Problem) (place : Mark) (during : Activity) (start : Mark) :
    Except SyntaxError α :=
  .error ⟨problem, place, some (during, start)⟩

/-- The number at a cursor, of at most nine digits. -/
def readNumber (start : Mark) (c : Cursor) : Except SyntaxError (Nat × Cursor) :=
  let (digits, rest) := c.span Char.isDigit
  if 9 < digits.length then
    fail .longVersionNumber (c.mark.right 9) .versionDirective start
  else if digits.isEmpty then
    fail .noVersionNumber c.mark .versionDirective start
  else
    .ok (digits.foldl (fun n d => n * 10 + (d.toNat - '0'.toNat)) 0, rest)

/-- Two numbers with a point between them. -/
def readVersion (start : Mark) (c : Cursor) : Except SyntaxError (TokenKind × Cursor) := do
  let (major, c) ← readNumber start c.dropBlanks
  if !c.at? '.' then
    fail .noVersionSeparator c.mark .versionDirective start
  else
    let (minor, c) ← readNumber start c.next
    return (.version major minor, c)

/-- A handle and the beginning of a name. -/
def readTag (start : Mark) (c : Cursor) : Except SyntaxError (TokenKind × Cursor) := do
  let c := c.dropBlanks
  match Tag.readHandle c with
  | none => fail .noHandleMark c.mark .tagDirectiveHandle start
  | some (handle, c) =>
    if handle != "!" && !Tag.isHandle handle then
      fail .noHandleMark c.mark .tagDirectiveHandleEnd start
    else if !(c.rest.head?.any isBlank) then
      fail .noWhitespace c.mark .tagDirectiveSpacing start
    else
      let (lead, c) ← Tag.readUri ⟨true, .tagDirectiveUri, start⟩ none c.dropBlanks
      if !c.endsWordAt 0 then
        fail .noWhitespaceOrBreak c.mark .tagDirectiveSpacing start
      else
        return (.tagDirective handle lead, c)

/-- The directive whose `%` is at the cursor, with the rest of its line. -/
def read (c : Cursor) : Except SyntaxError (Token × Cursor) := do
  let start := c.mark
  let (name, c) := c.next.span isNameChar
  if name.isEmpty then
    fail .noDirectiveName c.mark .directive start
  else if !c.endsWordAt 0 then
    fail .directiveNameBroken c.mark .directive start
  else
    let (kind, c) ←
      match String.ofList name with
      | "YAML" => readVersion start c
      | "TAG" => readTag start c
      | _ => fail .unknownDirective c.mark .directive start
    let stop := c.mark
    let c := c.dropBlanks.dropComment
    if c.atLineEnd then return (⟨kind, start, stop⟩, c.dropBreak)
    else fail .noLineEnd c.mark .directive start

end Directive

end Yaml
end WorkflowLint
