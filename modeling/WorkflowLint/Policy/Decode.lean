import WorkflowLint.Policy
import WorkflowLint.Text.Blank
import WorkflowLint.Yaml.Compose

/-!
# Policy files

A policy file is a mapping from field names to values. Fields that are left out keep the
values of the standard policy; names that are no fields, and fields given twice, are refused.
A file without content is the standard policy. Scalars are taken as texts, whatever they
would stand for elsewhere.
-/

namespace WorkflowLint

open Yaml

namespace Policy

/-! ## Fields -/

/-- The fields of a policy. -/
inductive Field
  | workflowPath
  | expectedRepo
  | expectedPackage
  | runnerFamily
  | jdkVersions
  deriving DecidableEq, Repr

namespace Field

/-- All fields in order. -/
def all : List Field :=
  [.workflowPath, .expectedRepo, .expectedPackage, .runnerFamily, .jdkVersions]

/-- The name of a field in a file. -/
def name : Field → String
  | .workflowPath => "workflow_path"
  | .expectedRepo => "expected_repo"
  | .expectedPackage => "expected_package"
  | .runnerFamily => "runner_family"
  | .jdkVersions => "jdk_versions"

def ofName? (name : String) : Option Field :=
  all.find? fun f => f.name == name

end Field

/-- The fields that a file has given so far. -/
structure Overrides where
  workflowPath : Option String
  expectedRepo : Option String
  expectedPackage : Option String
  runnerFamily : Option String
  jdkVersions : Option (List String)
  deriving DecidableEq, Repr

namespace Overrides

/-- No fields. -/
def none : Overrides :=
  ⟨.none, .none, .none, .none, .none⟩

/-- A field has been given. -/
def has (o : Overrides) : Field → Bool
  | .workflowPath => o.workflowPath.isSome
  | .expectedRepo => o.expectedRepo.isSome
  | .expectedPackage => o.expectedPackage.isSome
  | .runnerFamily => o.runnerFamily.isSome
  | .jdkVersions => o.jdkVersions.isSome

/-- The policy with the given fields in place of its own. -/
def apply (o : Overrides) (p : Policy) : Policy where
  workflowPath := o.workflowPath.getD p.workflowPath
  expectedRepo := o.expectedRepo.getD p.expectedRepo
  expectedPackage := o.expectedPackage.getD p.expectedPackage
  runnerFamily := o.runnerFamily.getD p.runnerFamily
  jdkVersions := o.jdkVersions.getD p.jdkVersions

end Overrides

/-! ## Values of fields -/

/-- What a scalar is taken for in a message. -/
def foundOfMeaning (text : String) : Scalar.Meaning → Found
  | .null => .unit
  | .bool b => .bool b
  | .integer n => if Scalar.isNarrow n then .integer n else .wideInteger n
  | .real x => .real x
  | .string => .string text

/-- The refusal of a body where another type is wanted. -/
def refusal (wanted : String) (tag : Option Octets) : Body → ContentError
  | .scalar style text =>
    match Scalar.resolve tag style text with
    | .ok m => .invalidType (foundOfMeaning text m) wanted
    | .error e => e
  | .sequence _ => .invalidType .sequence wanted
  | .mapping _ => .invalidType .map wanted

/-- A body that holds nothing: an empty plain scalar. -/
def isVoid : Body → Bool
  | .scalar .plain text => text == ""
  | _ => false

section

variable (d : Document)

/-- Reads the text of a scalar. -/
def readText {α : Type} (wanted : String) (use : String → Except ContentError α) (n : Node)
    (path : Path) : Reading α := do
  let (n, path) ← d.follow n path
  match n with
  | .content _ mark _ (.scalar _ text) => Reading.place mark path (use text)
  | .content _ mark tag body => Reading.place mark path (.error (refusal wanted tag body))
  | _ => Reading.fail d.breakError

/-- Reads texts from an index on. -/
def readTexts (path : Path) : Nat → List Node → Reading (List String)
  | _, [] => pure []
  | i, n :: rest => do
    let text ← readText d "a string" .ok n (.item path i)
    return text :: (← readTexts path (i + 1) rest)

def readList (n : Node) (path : Path) : Reading (List String) := do
  let (n, path) ← d.follow n path
  match n with
  | .content _ mark tag body =>
    match body with
    | .sequence items => readTexts d path 0 items
    | body =>
      if isVoid body then return []
      else Reading.place mark path (.error (refusal "a sequence" tag body))
  | _ => Reading.fail d.breakError

/-- Reads the name of a field. -/
def readField (n : Node) (path : Path) : Reading Field :=
  readText d "field identifier"
    (fun name =>
      match Field.ofName? name with
      | some f => .ok f
      | none => .error (.unknownField name (Field.all.map Field.name)))
    n path

/-- Reads the value of a field into what has been given so far. -/
def readValue (o : Overrides) (f : Field) (n : Node) (path : Path) : Reading Overrides :=
  match f with
  | .workflowPath =>
    return { o with workflowPath := some (← readText d "path string" .ok n path) }
  | .expectedRepo => return { o with expectedRepo := some (← readText d "a string" .ok n path) }
  | .expectedPackage =>
    return { o with expectedPackage := some (← readText d "a string" .ok n path) }
  | .runnerFamily => return { o with runnerFamily := some (← readText d "a string" .ok n path) }
  | .jdkVersions => return { o with jdkVersions := some (← readList d n path) }

/-- Reads the entries of a file. -/
def readEntries (mark : Mark) (o : Overrides) : List (Node × Node) → Reading Overrides
  | [] => pure o
  | (k, v) :: rest => do
    let f ← readField d k .root
    -- a field given twice is refused before its value is looked at
    if o.has f then
      Reading.fail (.content (.duplicateField f.name) mark .root)
    else
      let o ← readValue d o f v (Value.entryPath .root k)
      readEntries mark o rest

/-- Reads the root of a file. -/
def readRoot (n : Node) : Reading Overrides :=
  match n with
  | .content _ mark tag body =>
    match body with
    | .mapping entries => readEntries d mark .none entries
    | body =>
      if isVoid body then pure .none
      else Reading.place mark .root (.error (refusal "struct Policy" tag body))
  | _ => Reading.fail d.breakError

end

/-- The fields that a text gives. -/
def overrides (content : String) : Except Yaml.Error Overrides :=
  let d := Document.ofString content
  d.decode .none (readRoot d)

/-! ## Files -/

/-- Why a text is no policy. -/
inductive ParseError
  | malformed (cause : Yaml.Error)
  | invalidRepo (repo : String)
  deriving Repr

def ParseError.message : ParseError → String
  | .malformed cause => cause.message
  | .invalidRepo repo => "expected_repo must be 'owner/name', got '" ++ repo ++ "'"

/-- The policy that a text gives. -/
def parse (content : String) : Except ParseError Policy :=
  if Text.isBlankText content then .ok standard
  else
    match overrides content with
    | .error cause => .error (.malformed cause)
    | .ok o =>
      let p := o.apply standard
      if isRepo p.expectedRepo then .ok p else .error (.invalidRepo p.expectedRepo)

end Policy

end WorkflowLint
