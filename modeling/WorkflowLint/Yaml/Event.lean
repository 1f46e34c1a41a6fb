import WorkflowLint.Yaml.Token

/-!
# Events

The nodes of a stream in reading order: scalars and aliases, and the beginning and end of
sequences, mappings, documents and the stream. A stream of events either ends with
`streamEnd` or breaks off with an error.
-/

namespace WorkflowLint
namespace Yaml

/-- What may stand before any node. -/
structure Properties where
  anchor : Option String
  /-- The full name of the tag. -/
  tag : Option Octets
  deriving DecidableEq, Repr

/-- A step through the nodes of a stream. -/
inductive Event
  | documentStart
  | documentEnd
  | streamEnd
  | alias (mark : Mark) (name : String)
  | scalar (mark : Mark) (properties : Properties) (style : ScalarStyle) (text : String)
  | sequenceStart (mark : Mark) (properties : Properties)
  | sequenceEnd
  | mappingStart (mark : Mark) (properties : Properties)
  | mappingEnd
  deriving DecidableEq, Repr

/-- The events of a text, as far as they can be had. -/
structure EventStream where
  events : List Event
  failure : Option Error

end Yaml
end WorkflowLint
