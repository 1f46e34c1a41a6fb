import WorkflowLint.Diagnostic

/-!
# Reports

What a report is about: the location of a workflow, the findings about it, and how strictly
they are judged.
-/

namespace WorkflowLint

/-- What a report is about. -/
structure Report where
  location : String
  findings : Findings
  /-- Warnings fail the run as well. -/
  strict : Bool
  deriving DecidableEq, Repr

namespace Report

/-- The run passes. -/
def passed (r : Report) : Bool :=
  r.findings.passed r.strict

end Report

end WorkflowLint
