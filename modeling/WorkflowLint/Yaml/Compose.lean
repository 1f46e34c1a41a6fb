import WorkflowLint.Yaml.Event.Grammar
import WorkflowLint.Yaml.Node
import WorkflowLint.Yaml.Scalar
import WorkflowLint.Yaml.Token.Scan

/-!
# From nodes to values

Values are made in reading order, so the first fault met decides the error: a fault of
content before the place where the document breaks off comes first. Collections may be nested
128 deep, which also ends an alias that lies in the node it stands for. Aliases may be
followed 100 times for each step of the document.
-/

namespace WorkflowLint
namespace Yaml

/-- Reading content: the aliases followed so far, and an error. -/
abbrev Reading (α : Type) :=
  StateT Nat (Except Error) α

/-- How deep collections may be nested. -/
def depthLimit : Nat :=
  128

/-- How often aliases may be followed for each step of a document. -/
def aliasLimit : Nat :=
  100

namespace Reading

def fail {α : Type} (e : Error) : Reading α :=
  fun _ => .error e

/-- A fault of content at a place. -/
def place {α : Type} (mark : Mark) (path : Path) (r : Except ContentError α) : Reading α :=
  match r with
  | .ok a => pure a
  | .error e => fail (.content e mark path)

end Reading

namespace Document

/-- The error where the document breaks off. -/
def breakError (d : Document) : Error :=
  d.failure.getD .severalDocuments

/-- The node that an alias stands for; other nodes stand for themselves. -/
def follow (d : Document) (n : Node) (path : Path) : Reading (Node × Path) :=
  match n with
  | .alias _ target => fun jumps =>
    -- this alias is not counted yet
    if d.size * aliasLimit ≤ jumps then .error .tooManyAliases
    else .ok ((((d.root.bind (·.find? target)).getD .cut), .alias path), jumps + 1)
  | n => pure (n, path)

/-- Reads the document as a whole. Content comes first, then the end of the document, and
last what may follow it. -/
def decode {α : Type} (d : Document) (absent : α) (read : Node → Reading α) :
    Except Error α := do
  let a ←
    match d.root with
    | some n => (read n).run' 0
    | none => .ok absent
  match d.failure with
  | some e => .error e
  | none => if d.more then .error .severalDocuments else .ok a

/-- The first document of a text. -/
def ofString (s : String) : Document :=
  ofEvents (EventStream.ofTokens (TokenStream.ofSource (Source.ofString s)))

end Document

namespace Value

/-- The value of a scalar with a meaning. Integers of more than 64 bits are refused. -/
def ofMeaning (text : String) : Scalar.Meaning → Except ContentError Value
  | .null => .ok .null
  | .bool b => .ok (.bool b)
  | .integer n =>
    if Scalar.isNarrow n then .ok (.number (.integer n))
    else .error (.invalidType (.wideInteger n) "any YAML value")
  | .real x => .ok (.number (.real x))
  | .string => .ok (.string text)

def ofScalar (tag : Option Octets) (style : ScalarStyle) (text : String) :
    Except ContentError Value :=
  match Scalar.localTag? tag with
  | some name => (ofMeaning text (Scalar.untagged style text)).map (.tagged name)
  | none => Scalar.resolve tag style text >>= ofMeaning text

/-- A value under its tag, if the document's author defined the tag. -/
def underTag (tag : Option Octets) (v : Value) : Value :=
  match Scalar.localTag? tag with
  | some name => .tagged name v
  | none => v

/-- The path of the value under a key. Only a scalar gives the path a name. -/
def entryPath (path : Path) : Node → Path
  | .content _ _ _ (.scalar _ text) => .entry path text
  | _ => .unnamed path

section

variable (read : Node → Path → Reading Value)

/-- The values of the items of a sequence, from an index on. -/
def ofItems (path : Path) : Nat → List Node → Reading (List Value)
  | _, [] => pure []
  | i, n :: rest => do
    let v ← read n (.item path i)
    return v :: (← ofItems path (i + 1) rest)

/-- The values of the entries of a mapping, after those already read. A key must differ from
all before it. -/
def ofEntries (mark : Mark) (path : Path) :
    List (Value × Value) → List (Node × Node) → Reading (List (Value × Value))
  | done, [] => pure done
  | done, (k, v) :: rest => do
    let key ← read k path
    match findKey? key done with
    | some first => Reading.fail (.content (.duplicateKey first) mark path)
    | none =>
      -- a repeated key is found before its value is read
      let value ← read v (entryPath path k)
      ofEntries mark path (done ++ [(key, value)]) rest

end

/-- The value of a node, with so many levels of nesting left. -/
def ofNode (d : Document) (depth : Nat) (n : Node) (path : Path) : Reading Value := do
  let (n, path) ← d.follow n path
  match n with
  | .content _ mark tag (.scalar style text) => Reading.place mark path (ofScalar tag style text)
  | .content _ mark tag (.sequence items) =>
    match depth with
    | 0 => Reading.fail (.tooDeep mark)
    | depth + 1 => return underTag tag (.sequence (← ofItems (ofNode d depth) path 0 items))
  | .content _ mark tag (.mapping entries) =>
    match depth with
    | 0 => Reading.fail (.tooDeep mark)
    | depth + 1 =>
      return underTag tag (.mapping (← ofEntries (ofNode d depth) mark path [] entries))
  | _ => Reading.fail d.breakError

def ofDocument (d : Document) : Except Error Value :=
  d.decode .null fun n => ofNode d depthLimit n .root

/-- The value of a text that holds one document. A text without any document is null. -/
def parse (s : String) : Except Error Value :=
  ofDocument (.ofString s)

end Value

end Yaml
end WorkflowLint
