import WorkflowLint.Yaml.Event

/-!
# From tokens to events

The grammar is predictive: a stack of goals says what is still to be read, and the token at
hand decides what the goal on top turns into. A goal either takes the token or leaves it to
the goals that replace it. Leaving it makes the stack lighter, by the weights given to goals,
and a token taken outweighs the goals it can bring, so reading ends.
-/

namespace WorkflowLint
namespace Yaml

/-- The tag of a node as written: a handle, the rest of the name, and its place. -/
structure WrittenTag where
  handle : String
  rest : Octets
  mark : Mark
  deriving DecidableEq, Repr

/-- What has been read of a node before its content. -/
structure Lead where
  anchor : Option String
  tag : Option WrittenTag
  /-- The place of the first property. -/
  start : Option Mark
  deriving DecidableEq, Repr

/-- Nothing yet. -/
def Lead.none : Lead :=
  ⟨.none, .none, .none⟩

/-- What surrounds a node. -/
inductive Context
  /-- Inside a flow collection. -/
  | flow
  /-- Inside a block, where a sequence must be indented. -/
  | block
  /-- A key or value of a block mapping, where a sequence need not be indented. -/
  | entry
  deriving DecidableEq, Repr

/-- What is still to be read. -/
inductive Goal
  /-- A document, or the end of the stream; only the first document may begin without `---`. -/
  | document (first : Bool)
  /-- The directives of a document and its `---`; a version has or has not been given. -/
  | directives (version : Bool)
  | content
  | documentEnd
  | node (context : Context) (lead : Lead)
  | blockItems (start : Mark)
  | indentlessItems
  | blockKeys (start : Mark)
  | blockValue
  /-- What follows `-`, `?` or `:` in a block; it may be missing. -/
  | blockItem (after : Mark)
  | indentlessItem (after : Mark)
  | blockNode (after : Mark)
  /-- The items of a flow sequence, where one may begin, or after an item. -/
  | flowItems (start : Mark)
  | flowItemsRest (start : Mark)
  | flowKeys (start : Mark)
  | flowKeysRest (start : Mark)
  /-- A node in a flow mapping; it may be missing. -/
  | flowKey
  | flowValue
  | flowValueNode
  | noFlowValue
  /-- A single pair in a flow sequence. -/
  | pairKey
  | pairValue
  | pairValueNode
  | pairEnd
  deriving DecidableEq, Repr

namespace Goal

/-- Weights: a goal outweighs the goals that may replace it while the token stays. -/
def weight : Goal → Nat
  | document first => if first then 8 else 4
  | directives _ => 3
  | content => 3
  | documentEnd => 5
  | node _ _ => 2
  | blockItem _ | indentlessItem _ | blockNode _ => 3
  | flowItems _ | flowKeys _ => 5
  | flowKey | flowValueNode | pairKey | pairValueNode => 3
  | _ => 1

end Goal

/-- The weight of a stack of goals. -/
def weightOf : List Goal → Nat
  | [] => 0
  | g :: goals => g.weight + weightOf goals

/-- What a token is worth. -/
def tokenWeight : Nat :=
  10

/-- What the goal on top turns into. -/
structure Reaction where
  /-- The token is taken. -/
  takes : Bool
  events : List Event
  goals : List Goal
  /-- The handles bound by the document's directives, from here on. -/
  handles : List (String × Octets)

/-- A problem at a token, while reading what began at a mark. -/
def Token.refuse {α : Type} (t : Token) (problem : Problem) (during : Activity) (start : Mark) :
    Except SyntaxError α :=
  .error ⟨problem, t.start, some (during, start)⟩

/-- A problem at a token. -/
def Token.refuseAlone {α : Type} (t : Token) (problem : Problem) : Except SyntaxError α :=
  .error ⟨problem, t.start, none⟩

/-- A scalar without text. -/
def emptyScalar (m : Mark) : Event :=
  .scalar m ⟨none, none⟩ .plain ""

namespace Goal

/-- The handles that need no directive. -/
def standardHandles : List (String × Octets) :=
  [("!", Octets.ofString "!"), ("!!", Octets.ofString "tag:yaml.org,2002:")]

/-- The name that a handle stands for; the handles of the directives come first. -/
def lookup (handles : List (String × Octets)) (handle : String) : Option Octets :=
  ((handles ++ standardHandles).find? fun h => h.1 == handle).map (·.2)

/-- The full name of a tag. A tag without a handle is a full name. -/
def fullTag (handles : List (String × Octets)) (start : Mark) :
    Option WrittenTag → Except SyntaxError (Option Octets)
  | none => .ok none
  | some t =>
    if t.handle == "" then .ok (some t.rest)
    else
      match lookup handles t.handle with
      | some lead => .ok (some (lead ++ t.rest))
      | none => .error ⟨.undefinedHandle, t.mark, some (.node, start)⟩

section

variable (handles : List (String × Octets)) (t : Token)

/-- The token is taken. -/
def take (events : List Event) (goals : List Goal) : Except SyntaxError Reaction :=
  .ok ⟨true, events, goals, handles⟩

/-- The token is left. -/
def leave (events : List Event) (goals : List Goal) : Except SyntaxError Reaction :=
  .ok ⟨false, events, goals, handles⟩

/-- A node at a token that may also show that the node is missing. -/
def nodeUnless (missing : Bool) (context : Context) (m : Mark) : Except SyntaxError Reaction :=
  if missing then leave handles [emptyScalar m] [] else leave handles [] [.node context .none]

/-- The content of a node, after its properties. -/
def nodeContent (context : Context) (lead : Lead) : Except SyntaxError Reaction := do
  let start := lead.start.getD t.start
  let properties := ⟨lead.anchor, ← fullTag handles start lead.tag⟩
  match t.kind, context with
  -- under a key, a sequence may stand at the column of the key
  | .blockEntry, .entry => leave handles [.sequenceStart start properties] [.indentlessItems]
  | .scalar style text, _ => take handles [.scalar start properties style text] []
  | .flowSequenceStart, _ =>
    take handles [.sequenceStart start properties] [.flowItems t.start]
  | .flowMappingStart, _ =>
    take handles [.mappingStart start properties] [.flowKeys t.start]
  | .blockSequenceStart, .block | .blockSequenceStart, .entry =>
    take handles [.sequenceStart start properties] [.blockItems t.start]
  | .blockMappingStart, .block | .blockMappingStart, .entry =>
    take handles [.mappingStart start properties] [.blockKeys t.start]
  | _, _ =>
    -- properties alone make a node without text
    if lead.start.isSome then leave handles [.scalar start properties .plain ""] []
    else t.refuse .noNodeContent (if context = .flow then .flowNode else .blockNode) start

/-- A node: properties first, each at most once, then the content. -/
def nodePart (context : Context) (lead : Lead) : Except SyntaxError Reaction :=
  match t.kind, lead with
  | .alias name, ⟨none, none, _⟩ => take handles [.alias t.start name] []
  | .anchor name, ⟨none, tag, start⟩ =>
    take handles [] [.node context ⟨some name, tag, some (start.getD t.start)⟩]
  | .tag handle rest, ⟨anchor, none, start⟩ =>
    let tag := ⟨handle, rest, t.start⟩
    take handles [] [.node context ⟨anchor, some tag, some (start.getD t.start)⟩]
  | _, _ => nodeContent handles t context lead

/-- The directives of a document and its beginning. -/
def directive (version : Bool) : Except SyntaxError Reaction :=
  match t.kind with
  | .version major minor =>
    if version then t.refuseAlone .duplicateVersion
    -- only these two versions are known
    else if major == 1 && (minor == 1 || minor == 2) then take handles [] [.directives true]
    else t.refuseAlone .incompatibleVersion
  | .tagDirective handle lead =>
    if handles.any (·.1 == handle) then t.refuseAlone .duplicateTagDirective
    else take (handles ++ [(handle, lead)]) [] [.directives version]
  | .documentStart => take handles [.documentStart] [.content, .documentEnd]
  | _ => t.refuseAlone .noDocumentStart

/-- The beginning of a document or the end of the stream. -/
def documentPart (first : Bool) : Except SyntaxError Reaction :=
  match t.kind, first with
  | .streamEnd, _ => take handles [.streamEnd] []
  | .documentEnd, false => take handles [] [.document false]
  | .version _ _, _ | .tagDirective _ _, _ | .documentStart, _ | _, false =>
    leave handles [] [.directives false]
  -- only the first document may begin without a marker
  | _, true => leave handles [.documentStart] [.node .block .none, .documentEnd]

/-- What a goal turns into at a token. -/
def expand : Goal → Except SyntaxError Reaction
  | document first => documentPart handles t first
  | directives version => directive handles t version
  | content =>
    match t.kind with
    | .version _ _ | .tagDirective _ _ | .documentStart | .documentEnd | .streamEnd =>
      leave handles [emptyScalar t.start] []
    | _ => leave handles [] [.node .block .none]
  | documentEnd =>
    match t.kind with
    -- the handles of a document end with it
    | .documentEnd => take [] [.documentEnd] [.document false]
    | _ => leave [] [.documentEnd] [.document false]
  | node context lead => nodePart handles t context lead
  | blockItems start =>
    match t.kind with
    | .blockEntry => take handles [] [.blockItem t.stop, .blockItems start]
    | .blockEnd => take handles [.sequenceEnd] []
    | _ => t.refuse .noDash .blockCollection start
  | blockItem after =>
    match t.kind with
    | .blockEntry | .blockEnd => nodeUnless handles true .block after
    | _ => nodeUnless handles false .block after
  | indentlessItems =>
    match t.kind with
    | .blockEntry => take handles [] [.indentlessItem t.stop, .indentlessItems]
    | _ => leave handles [.sequenceEnd] []
  | indentlessItem after =>
    match t.kind with
    | .blockEntry | .key | .value | .blockEnd => nodeUnless handles true .block after
    | _ => nodeUnless handles false .block after
  | blockKeys start =>
    match t.kind with
    | .key => take handles [] [.blockNode t.stop, .blockValue, .blockKeys start]
    | .blockEnd => take handles [.mappingEnd] []
    | _ => t.refuse .noKey .blockMapping start
  | blockValue =>
    match t.kind with
    | .value => take handles [] [.blockNode t.stop]
    | _ => leave handles [emptyScalar t.start] []
  | blockNode after =>
    match t.kind with
    | .key | .value | .blockEnd => nodeUnless handles true .entry after
    | _ => nodeUnless handles false .entry after
  | flowItems start =>
    match t.kind with
    | .flowSequenceEnd => take handles [.sequenceEnd] []
    | .key =>
      take handles [.mappingStart t.start ⟨none, none⟩]
        [.pairKey, .pairValue, .pairEnd, .flowItemsRest start]
    | _ => leave handles [] [.node .flow .none, .flowItemsRest start]
  | flowItemsRest start =>
    match t.kind with
    | .flowSequenceEnd => take handles [.sequenceEnd] []
    | .flowEntry => take handles [] [.flowItems start]
    | _ => t.refuse .noSequenceEnd .flowSequence start
  | pairKey =>
    match t.kind with
    -- this one takes the token that shows that the key is missing
    | .value | .flowEntry | .flowSequenceEnd => take handles [emptyScalar t.stop] []
    | _ => leave handles [] [.node .flow .none]
  | pairValue =>
    match t.kind with
    | .value => take handles [] [.pairValueNode]
    | _ => leave handles [emptyScalar t.start] []
  | pairValueNode =>
    match t.kind with
    | .flowEntry | .flowSequenceEnd => nodeUnless handles true .flow t.start
    | _ => nodeUnless handles false .flow t.start
  | pairEnd => leave handles [.mappingEnd] []
  | flowKeys start =>
    match t.kind with
    | .flowMappingEnd => take handles [.mappingEnd] []
    | .key => take handles [] [.flowKey, .flowValue, .flowKeysRest start]
    | _ => leave handles [] [.node .flow .none, .noFlowValue, .flowKeysRest start]
  | flowKeysRest start =>
    match t.kind with
    | .flowMappingEnd => take handles [.mappingEnd] []
    | .flowEntry => take handles [] [.flowKeys start]
    | _ => t.refuse .noMappingEnd .flowMapping start
  | flowKey =>
    match t.kind with
    | .value | .flowEntry | .flowMappingEnd => nodeUnless handles true .flow t.start
    | _ => nodeUnless handles false .flow t.start
  | flowValue =>
    match t.kind with
    | .value => take handles [] [.flowValueNode]
    | _ => leave handles [emptyScalar t.start] []
  | flowValueNode =>
    match t.kind with
    | .flowEntry | .flowMappingEnd => nodeUnless handles true .flow t.start
    | _ => nodeUnless handles false .flow t.start
  | noFlowValue => leave handles [emptyScalar t.start] []

end

end Goal

/-! ## Reading ends -/

namespace Goal

/-- The stack weighs less after a reaction, once the token is counted. -/
def Lighter (g : Goal) (r : Reaction) : Prop :=
  weightOf r.goals < g.weight + (if r.takes then tokenWeight else 0)

theorem nodeContent_lighter {handles : List (String × Octets)} {t : Token} {context : Context}
    {lead : Lead} {r : Reaction} (h : nodeContent handles t context lead = .ok r) :
    (node context lead).Lighter r := by
  unfold nodeContent at h
  cases htag : fullTag handles (lead.start.getD t.start) lead.tag with
  | error e => simp [htag, bind, Except.bind] at h
  | ok tag =>
    simp only [htag, bind, Except.bind] at h
    -- one goal for each arm; in those that react, all weights are numbers
    repeat' split at h
    all_goals
      simp only [take, leave, Token.refuse, Except.ok.injEq, reduceCtorEq] at h
      try subst h
      try simp [Lighter, weightOf, weight, tokenWeight]

theorem expand_lighter {handles : List (String × Octets)} {t : Token} {g : Goal} {r : Reaction}
    (h : expand handles t g = .ok r) : g.Lighter r := by
  cases g
  case node context lead =>
    simp only [expand, nodePart] at h
    split at h
    -- the last arm hands the node over with its properties
    case h_4 => exact nodeContent_lighter h
    all_goals
      simp only [take, Except.ok.injEq] at h
      subst h
      simp [Lighter, weightOf, weight, tokenWeight]
  all_goals
    simp only [expand, documentPart, directive, nodeUnless] at h
    repeat' split at h
    all_goals
      simp only [take, leave, Token.refuse, Token.refuseAlone, Except.ok.injEq, reduceCtorEq] at h
      try subst h
      try simp [Lighter, weightOf, weight, tokenWeight]
  all_goals split <;> decide

end Goal

namespace EventStream

theorem weightOf_append (gs hs : List Goal) :
    weightOf (gs ++ hs) = weightOf gs + weightOf hs := by
  induction gs with
  | nil => simp [weightOf]
  | cons g gs ih => simp [weightOf, ih, Nat.add_assoc]

/-- Reads on with a stack of goals. The stream of tokens ends with `failure` if that is
anything. -/
def read (failure : Option Error) (handles : List (String × Octets)) :
    List Goal → List Token → EventStream
  | [], _ => ⟨[], none⟩
  | _ :: _, [] => ⟨[], failure⟩
  | g :: goals, t :: tokens =>
    match _h : g.expand handles t with
    | .error e => ⟨[], some (.malformed e)⟩
    | .ok r =>
      let rest :=
        read failure r.handles (r.goals ++ goals) (if r.takes then tokens else t :: tokens)
      ⟨r.events ++ rest.events, rest.failure⟩
termination_by goals tokens => tokenWeight * tokens.length + weightOf goals
decreasing_by
  have hl := Goal.expand_lighter _h
  simp only [Goal.Lighter, tokenWeight] at hl
  rw [weightOf_append]
  -- a token that is taken outweighs what its goal turned into
  cases htakes : r.takes with
  | false => simp_all [weightOf, tokenWeight]
  | true =>
    simp_all [weightOf, tokenWeight]
    omega

def ofTokens (s : TokenStream) : EventStream :=
  read s.failure [] [.document true] s.tokens

end EventStream

end Yaml
end WorkflowLint
