/-!
# Diagnostics

What a check finds: a diagnostic names the rule it comes from, says how grave it is and may
suggest what to do. The findings of a run keep the order in which they were made.
-/

namespace WorkflowLint

/-- How grave a diagnostic is. Warnings are advice; errors fail a run. -/
inductive Severity
  | warning
  | error
  deriving DecidableEq, Repr

def Severity.name : Severity → String
  | .warning => "warning"
  | .error => "error"

/-- One finding. -/
structure Diagnostic where
  rule : String
  severity : Severity
  message : String
  suggestion : Option String
  deriving DecidableEq, Repr

namespace Diagnostic

/-- An error without a suggestion. -/
def error (rule message : String) : Diagnostic :=
  ⟨rule, .error, message, none⟩

/-- A warning without a suggestion. -/
def warning (rule message : String) : Diagnostic :=
  ⟨rule, .warning, message, none⟩

def suggest (d : Diagnostic) (suggestion : String) : Diagnostic :=
  { d with suggestion := some suggestion }

/-- A diagnostic if a condition holds. -/
def when (condition : Bool) (d : Diagnostic) : List Diagnostic :=
  if condition then [d] else []

end Diagnostic

/-- The findings of a run, in order. -/
abbrev Findings := List Diagnostic

namespace Findings

def ofSeverity (severity : Severity) (f : Findings) : Findings :=
  f.filter fun d => d.severity == severity

def errors (f : Findings) : Findings :=
  ofSeverity .error f

def warnings (f : Findings) : Findings :=
  ofSeverity .warning f

def hasErrors (f : Findings) : Bool :=
  f.any fun d => d.severity == .error

theorem hasErrors_iff (f : Findings) : f.hasErrors = true ↔ f.errors ≠ [] := by
  simp [hasErrors, errors, ofSeverity, List.filter_eq_nil_iff]

/-- The run passes: nothing is an error, or, if the run is strict, nothing was found. -/
def passed (f : Findings) (strict : Bool) : Bool :=
  if strict then f.isEmpty else !f.hasErrors

end Findings

end WorkflowLint
