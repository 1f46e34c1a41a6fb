import WorkflowLint.Diagnostic
import WorkflowLint.Policy
import WorkflowLint.Workflow.Job

/-!
# Rules

A rule looks at a workflow and a policy, and answers with diagnostics. It sees nothing of
what other rules found.
-/

namespace WorkflowLint

structure Rule where
  id : String
  name : String
  description : String
  /-- How grave the rule's main diagnostic is. -/
  severity : Severity
  check : Workflow → Policy → Findings

end WorkflowLint
