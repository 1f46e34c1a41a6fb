import WorkflowLint.Yaml.Event

/-!
# Nodes: the tree of a document before its values

A node keeps its place, its tag and how it was written. Nodes are numbered in reading order,
and an alias holds the number of the node it stands for, which may be one that the alias lies
in. Where a stream breaks off, the tree ends in `cut`.

An anchor is first turned into a slot: the number of different anchors named so far. A name
given anew takes the slot that is next, without using it up, and an alias stands for the last
node of the slot that its name had when the alias was read.
-/

namespace WorkflowLint
namespace Yaml

mutual

/-- A place in the tree of a document. -/
inductive Node
  | content (number : Nat) (mark : Mark) (tag : Option Octets) (body : Body)
  | alias (mark : Mark) (target : Nat)
  /-- The stream broke off here. -/
  | cut

/-- What a node holds. -/
inductive Body
  | scalar (style : ScalarStyle) (text : String)
  | sequence (items : List Node)
  | mapping (entries : List (Node × Node))

end

/-! ## Anchors -/

/-- The slots of anchor names, and the last node of each slot; the latest entries first. -/
structure Anchors where
  slots : List (String × Nat)
  /-- Different names so far. -/
  names : Nat
  targets : List (Nat × Nat)

namespace Anchors

/-- No anchors. -/
def empty : Anchors :=
  ⟨[], 0, []⟩

def slot? (a : Anchors) (name : String) : Option Nat :=
  (a.slots.find? (·.1 == name)).map (·.2)

/-- The node with a number has an anchor. -/
def add (a : Anchors) (name : String) (number : Nat) : Anchors where
  -- the slot is the next one even if the name is not new
  slots := (name, a.names) :: a.slots
  names := if (a.slot? name).isSome then a.names else a.names + 1
  targets := (a.names, number) :: a.targets

/-- The last node of a slot. -/
def target (a : Anchors) (slot : Nat) : Nat :=
  ((a.targets.find? (·.1 == slot)).map (·.2)).getD 0

end Anchors

/-! ## The events of one document -/

/-- An event of a document, an alias being known by its slot. -/
inductive Step
  | alias (mark : Mark) (slot : Nat)
  | scalar (mark : Mark) (tag : Option Octets) (style : ScalarStyle) (text : String)
  | open (mark : Mark) (tag : Option Octets) (isMapping : Bool)
  | close

/-- The first document of a stream: its steps, why it breaks off if it does, and whether
anything but the end of the stream follows it. -/
structure Steps where
  steps : List Step
  anchors : Anchors
  failure : Option Error
  more : Bool

/-- The anchors after a node with these properties. -/
def Anchors.note (a : Anchors) (p : Properties) (number : Nat) : Anchors :=
  match p.anchor with
  | some name => a.add name number
  | none => a

/-- Something follows a document: the events do not end the stream at once. -/
def hasMore : List Event → Bool
  | [.streamEnd] => false
  | _ => true

namespace Steps

/-- The steps after one more step. -/
def cons (s : Steps) (step : Step) : Steps :=
  { s with steps := step :: s.steps }

/-- Collects the steps of a document; `number` steps lie behind. -/
def collect (failure : Option Error) (a : Anchors) (number : Nat) : List Event → Steps
  | [] => ⟨[], a, failure, true⟩
  | .documentStart :: rest => collect failure a number rest
  -- what breaks off the stream later on is no matter of this document
  | .documentEnd :: rest => ⟨[], a, none, hasMore rest⟩
  | .streamEnd :: _ => ⟨[], a, none, false⟩
  | .alias mark name :: rest =>
    match a.slot? name with
    | none => ⟨[], a, some (.unknownAnchor mark), true⟩
    | some slot => (collect failure a (number + 1) rest).cons (.alias mark slot)
  | .scalar mark p style text :: rest =>
    (collect failure (a.note p number) (number + 1) rest).cons (.scalar mark p.tag style text)
  | .sequenceStart mark p :: rest =>
    (collect failure (a.note p number) (number + 1) rest).cons (.open mark p.tag false)
  | .mappingStart mark p :: rest =>
    (collect failure (a.note p number) (number + 1) rest).cons (.open mark p.tag true)
  | .sequenceEnd :: rest => (collect failure a (number + 1) rest).cons .close
  | .mappingEnd :: rest => (collect failure a (number + 1) rest).cons .close

end Steps

/-! ## The tree -/

/-- A collection whose end has not been read; its nodes the last one first. -/
structure OpenNode where
  number : Nat
  mark : Mark
  tag : Option Octets
  isMapping : Bool
  nodes : List Node

/-- Keys and values in turn; a key at the end has lost its value. -/
def pairUp : List Node → List (Node × Node)
  | key :: value :: rest => (key, value) :: pairUp rest
  | [key] => [(key, .cut)]
  | [] => []

/-- The node that a collection makes. -/
def OpenNode.toNode (o : OpenNode) : Node :=
  let nodes := o.nodes.reverse
  .content o.number o.mark o.tag
    (if o.isMapping then .mapping (pairUp nodes) else .sequence nodes)

/-- The collection with one more node. -/
def OpenNode.push (o : OpenNode) (n : Node) : OpenNode :=
  { o with nodes := n :: o.nodes }

namespace Node

/-- Closes all open collections around a node. -/
def closeAll (n : Node) : List OpenNode → Node
  | [] => n
  | o :: rest => closeAll (o.push n).toNode rest

/-- Builds the tree. `opened` are the open collections, the innermost first, and `number`
steps lie behind. -/
def build (targets : Nat → Nat) (number : Nat) : List OpenNode → List Step → Node
  | opened, [] => closeAll .cut opened
  | opened, .open mark tag isMapping :: rest =>
    build targets (number + 1) (⟨number, mark, tag, isMapping, []⟩ :: opened) rest
  | o :: p :: opened, .close :: rest =>
    build targets (number + 1) (p.push o.toNode :: opened) rest
  -- the collection closed last is the root
  | [o], .close :: _ => o.toNode
  | [], .close :: _ => .cut
  | opened, .alias mark slot :: rest =>
    match opened with
    | o :: opened => build targets (number + 1) (o.push (.alias mark (targets slot)) :: opened) rest
    | [] => .alias mark (targets slot)
  | opened, .scalar mark tag style text :: rest =>
    let n := .content number mark tag (.scalar style text)
    match opened with
    | o :: opened => build targets (number + 1) (o.push n :: opened) rest
    | [] => n

end Node

/-! ## Looking nodes up by number -/

mutual

/-- The node with a number, here or below. -/
def Node.find? (number : Nat) : Node → Option Node
  | .content n mark tag body =>
    if n == number then some (.content n mark tag body) else body.find? number
  | _ => none

/-- The node with a number below a body. -/
def Body.find? (number : Nat) : Body → Option Node
  | .scalar _ _ => none
  | .sequence items => Node.findInItems? number items
  | .mapping entries => Node.findInEntries? number entries

/-- The node with a number among nodes. -/
def Node.findInItems? (number : Nat) : List Node → Option Node
  | [] => none
  | n :: rest => n.find? number <|> Node.findInItems? number rest

/-- The node with a number among entries. -/
def Node.findInEntries? (number : Nat) : List (Node × Node) → Option Node
  | [] => none
  | (k, v) :: rest => k.find? number <|> v.find? number <|> Node.findInEntries? number rest

end

/-! ## Documents -/

/-- A document as far as it can be had. -/
structure Document where
  /-- Absent if the stream holds nothing. -/
  root : Option Node
  /-- Steps in the document. -/
  size : Nat
  /-- Why the document breaks off. -/
  failure : Option Error
  /-- Something follows the document in its stream. -/
  more : Bool

namespace Document

/-- The first document of a stream. -/
def ofEvents (s : EventStream) : Document :=
  let d := Steps.collect s.failure .empty 0 s.events
  let root := if d.steps.isEmpty && d.failure.isNone then none
    else some (Node.build d.anchors.target 0 [] d.steps)
  ⟨root, d.steps.length, d.failure, d.more⟩

end Document

end Yaml
end WorkflowLint
