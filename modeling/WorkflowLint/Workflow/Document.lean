import WorkflowLint.Text.Blank
import WorkflowLint.Workflow.View
import WorkflowLint.Yaml.Compose

/-!
# Workflows

A workflow is a document whose root is a mapping, together with the text it was read from.
Some readers take a bare `on` for a truth value, so a root key that is the truth value true
counts as the key `on`, and wins over a string key of that name. Renaming it keeps every
other entry, but moves the last one into its place.
-/

namespace WorkflowLint

open Yaml (Value)

/-- Entries of a mapping in order. -/
abbrev Entries := List (Value × Value)

namespace Entries

/-- The key of the section that declares the triggers. -/
def triggerKey : String :=
  "on"

/-- The truth value true as a key. -/
def isTrueKey : Value → Bool
  | .bool b => b
  | _ => false

def isStringKey (key : String) : Value → Bool
  | .string s => s == key
  | _ => false

/-- Takes out the entry of the key true, and puts the last entry into its place. Without such
an entry there is nothing to take. -/
def takeTrue : Entries → Option (Value × Entries)
  | [] => none
  | (k, v) :: rest =>
    if isTrueKey k then
      -- the last entry moves into the gap
      some (v, match rest.getLast? with
        | some last => last :: rest.dropLast
        | none => [])
    else
      (takeTrue rest).map fun (found, rest) => (found, (k, v) :: rest)

/-- Sets the value of a string key: in place if the key is there, else at the end. -/
def set (key : String) (value : Value) : Entries → Entries
  | [] => [(.string key, value)]
  | (k, v) :: rest =>
    if isStringKey key k then (k, value) :: rest else (k, v) :: set key value rest

/-- The entries with the key true renamed. -/
def normalizeTrigger (entries : Entries) : Entries :=
  match takeTrue entries with
  | some (v, rest) => set triggerKey v rest
  | none => entries

/-- Whether renaming changes anything. -/
def hasTrueKey (entries : Entries) : Bool :=
  entries.any fun e => isTrueKey e.1

end Entries

/-- Why a text is no workflow. -/
inductive WorkflowError
  | malformed (cause : Yaml.Error)
  | empty
  | notAMapping (kind : String)
  deriving Repr

def WorkflowError.message : WorkflowError → String
  | .malformed cause => "YAML syntax error: " ++ cause.message
  | .empty => "YAML file is empty"
  | .notAMapping kind => "Top-level YAML node must be a mapping, found " ++ kind

/-- A workflow and its text. -/
structure Workflow where
  /-- The entries of the root, with the key of the triggers in its one spelling. -/
  entries : Entries
  /-- The key of the triggers was spelled as a truth value. -/
  renamed : Bool
  source : String

namespace Workflow

/-- The workflow with a value at its root. -/
def ofValue (source : String) : Value → Except WorkflowError Workflow
  | .mapping entries =>
    .ok ⟨Entries.normalizeTrigger entries, Entries.hasTrueKey entries, source⟩
  | .null => .error .empty
  | v => .error (.notAMapping (View.ofValue v).kind)

/-- The workflow that a text holds. -/
def parse (source : String) : Except WorkflowError Workflow :=
  if Text.isBlankText source then .error .empty
  else
    match Value.parse source with
    | .error cause => .error (.malformed cause)
    | .ok v => ofValue source v

def root (w : Workflow) : View :=
  .mapping w.entries

/-- The view under a key of the root. -/
def get (w : Workflow) (key : String) : View :=
  w.root.get key

end Workflow

end WorkflowLint
