/-!
# Character classes of the notation

Which characters break lines, which separate words, which may stand in names and tags, and
which may stand in a text at all. Tests on a character that may be missing, because the
text ends, are stated on `Option Char`.
-/

namespace WorkflowLint
namespace Yaml

/-- Line feed, carriage return, next line, line separator and paragraph separator. -/
def isBreak (c : Char) : Bool :=
  c == '\n' || c == '\r' || c == '\u0085' || c == '\u2028' || c == '\u2029'

/-- A space or a tab. -/
def isBlank (c : Char) : Bool :=
  c == ' ' || c == '\t'

/-- Blanks, line breaks and the end of the text end a word. -/
def endsWord : Option Char → Bool
  | none => true
  | some c => isBlank c || isBreak c

/-- Letters, digits, `_` and `-` of ASCII: the characters of anchors, directives and handles. -/
def isNameChar (c : Char) : Bool :=
  c.isAlphanum || c == '_' || c == '-'

/-- Characters that close or separate flow collections. -/
def isFlowIndicator (c : Char) : Bool :=
  c == ',' || c == '[' || c == ']' || c == '{' || c == '}'

/-- Characters that may stand in a text: tab, the line breaks, and what is printable, which
leaves out the control characters, the surrogates, `U+FFFE` and `U+FFFF`. -/
def isAdmissible (c : Char) : Bool :=
  let n := c.toNat
  n == 0x09 || n == 0x0A || n == 0x0D || (0x20 ≤ n && n ≤ 0x7E) || n == 0x85 ||
    (0xA0 ≤ n && n ≤ 0xD7FF) || (0xE000 ≤ n && n ≤ 0xFFFD) || 0x10000 ≤ n

/-- The value of a hexadecimal digit. -/
def hexValue? (c : Char) : Option Nat :=
  if c.isDigit then some (c.toNat - '0'.toNat)
  else if 'a' ≤ c && c ≤ 'f' then some (c.toNat - 'a'.toNat + 10)
  else if 'A' ≤ c && c ≤ 'F' then some (c.toNat - 'A'.toNat + 10)
  else none

/-- The text at hand begins with `---` or `...` as a word of its own. -/
def startsWithMarker (marker : Char) : List Char → Bool
  | a :: b :: c :: rest => a == marker && b == marker && c == marker && endsWord rest.head?
  | _ => false

/-- A document marker of either kind. -/
def startsWithDocumentMarker (text : List Char) : Bool :=
  startsWithMarker '-' text || startsWithMarker '.' text

end Yaml
end WorkflowLint
