import WorkflowLint.Yaml.Error

/-!
# Tokens

The smallest parts of a text that the grammar distinguishes, each with the marks where it
begins and where the reader stood after it. A stream of tokens either ends with `streamEnd` or
breaks off with an error.
-/

namespace WorkflowLint
namespace Yaml

/-- How a scalar is written. -/
inductive ScalarStyle
  | plain
  | singleQuoted
  | doubleQuoted
  | literal
  | folded
  deriving DecidableEq, Repr

/-- A tag as the octets of its name. Escapes can put octets there that are no UTF-8 text. -/
abbrev Octets := List UInt8

def Octets.ofString (s : String) : Octets :=
  s.toUTF8.toList

/-- The text that octets stand for, if they are UTF-8. -/
def Octets.toString? (o : Octets) : Option String :=
  String.fromUTF8? (ByteArray.mk o.toArray)

/-- The kinds of tokens. -/
inductive TokenKind
  | streamEnd
  | version (major minor : Nat)
  | tagDirective (handle : String) (lead : Octets)
  | documentStart
  | documentEnd
  | blockSequenceStart
  | blockMappingStart
  | blockEnd
  | flowSequenceStart
  | flowSequenceEnd
  | flowMappingStart
  | flowMappingEnd
  | blockEntry
  | flowEntry
  | key
  | value
  | alias (name : String)
  | anchor (name : String)
  | tag (handle : String) (rest : Octets)
  | scalar (style : ScalarStyle) (text : String)
  deriving DecidableEq, Repr

/-- A token and its place. -/
structure Token where
  kind : TokenKind
  start : Mark
  stop : Mark
  deriving DecidableEq, Repr

/-- The tokens of a text, as far as they can be had. -/
structure TokenStream where
  tokens : List Token
  failure : Option Error

end Yaml
end WorkflowLint
