import WorkflowLint.Rule

/-!
# The rule about the trigger of a workflow

A workflow must be one that can be started by hand, and should then ask for a `ref` of type
`string`. The trigger may be a key of the section, an item of a list or the section itself;
only the first form can have inputs.
-/

namespace WorkflowLint

open Diagnostic (when)

/-- How the trigger is declared. -/
inductive Dispatch
  | missing
  /-- Named, without a place for inputs. -/
  | bare
  /-- A key with a value. -/
  | declared (value : View)

namespace Dispatch

/-- The name of the trigger. -/
def key : String :=
  "workflow_dispatch"

/-- Finds the trigger in the section of triggers. -/
def find (triggers : View) : Dispatch :=
  match triggers with
  | .mapping _ =>
    -- a key whose value is null is there all the same
    match triggers.get key with
    | .absent => .missing
    | value => .declared value
  | .sequence _ => if triggers.items.any (·.string? == some key) then .bare else .missing
  | v => if v.string? == some key then .bare else .missing

/-- The mapping under the trigger, if it has entries. -/
def body? : Dispatch → Option View
  | .declared value => if value.isFilledMapping then some value else none
  | _ => none

end Dispatch

namespace DispatchTrigger

/-- The identifier of the rule. -/
def id : String :=
  "dispatch-trigger"

/-- The diagnostic for a missing trigger. -/
def missing : Diagnostic :=
  (Diagnostic.error id "Missing 'workflow_dispatch' trigger").suggest
    "Add `workflow_dispatch:` under `on:`"

/-- What is to be said about the input of a trigger with a body. -/
def checkInput (input : View) : Findings :=
  if input.isAbsent then
    [Diagnostic.warning id "workflow_dispatch missing 'ref' input"]
  else
    when ((input.get "type").string? != some "string")
      (Diagnostic.warning id "'ref' input should be of type 'string'")

/-- An error if the trigger is missing, else at most one warning about its input. -/
def check (w : Workflow) : Findings :=
  match Dispatch.find (w.get "on") with
  | .missing => [missing]
  | trigger =>
    match trigger.body? with
    | none => [Diagnostic.warning id "workflow_dispatch has no inputs defined"]
    | some body => checkInput ((body.get "inputs").get "ref")

def rule : Rule where
  id := id
  name := "Dispatch Trigger"
  description := "Ensures the workflow is manually dispatchable with a string 'ref' input"
  severity := .error
  check := fun w _ => check w

end DispatchTrigger

end WorkflowLint
