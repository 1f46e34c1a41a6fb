import WorkflowLint.Files.Contents
import WorkflowLint.Registry

/-!
# Validation

A file without a text to read, and a text that is no workflow, come to one finding, and no rule
runs. For a workflow, the findings are those of a registry's run.
-/

namespace WorkflowLint

/-- The rule that stands for texts that are no workflow. -/
def syntaxRule : String :=
  "workflow-syntax"

/-- The rule that stands for files that cannot be read. -/
def fileRule : String :=
  "workflow-file"

/-- What validating a file comes to. -/
inductive Validation
  /-- There was no text to read at a location. -/
  | unread (location : String) (cause : ReadError)
  | rejected (cause : WorkflowError)
  /-- The rules ran, each with its findings; whether the key of the triggers was renamed before. -/
  | completed (renamed : Bool) (results : List (String × Findings))

namespace Validation

/-- Validates a text with the rules of a registry. -/
def run (registry : Registry) (source : String) (p : Policy) : Validation :=
  match Workflow.parse source with
  | .error cause => .rejected cause
  | .ok w => .completed w.renamed (registry.results w p)

/-- Validates what was read at a location with the rules of a registry. -/
def ofContents (registry : Registry) (p : Policy) (location : String) : Contents → Validation
  | .error cause => .unread location cause
  | .ok source => run registry source p

/-- What is said about a file without a text to read. -/
def unreadMessage (location : String) : ReadError → String
  | .missing => "File not found: " ++ location
  | cause => "Failed to read " ++ location ++ ": " ++ cause.message

/-- The findings, in order. -/
def findings : Validation → Findings
  | .unread location cause => [Diagnostic.error fileRule (unreadMessage location cause)]
  | .rejected cause => [Diagnostic.error syntaxRule cause.message]
  | .completed _ results => results.flatMap Prod.snd

end Validation

/-- The findings of the rules of a registry about a text. -/
def validateWith (registry : Registry) (source : String) (p : Policy) : Findings :=
  (Validation.run registry source p).findings

/-- The findings of the rules that are always there. -/
def validate (source : String) (p : Policy) : Findings :=
  validateWith .builtins source p

theorem validateWith_of_error {registry : Registry} {source : String} {p : Policy}
    {cause : WorkflowError} (h : Workflow.parse source = .error cause) :
    validateWith registry source p = [Diagnostic.error syntaxRule cause.message] := by
  simp [validateWith, Validation.run, h, Validation.findings]

theorem validateWith_of_ok {registry : Registry} {source : String} {p : Policy} {w : Workflow}
    (h : Workflow.parse source = .ok w) :
    validateWith registry source p = registry.run w p := by
  simp [validateWith, Validation.run, h, Validation.findings, Registry.flatMap_results]

end WorkflowLint
