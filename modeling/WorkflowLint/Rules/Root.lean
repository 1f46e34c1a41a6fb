import WorkflowLint.Rule

/-!
# Rules about the root of a workflow

The root must have a name, triggers and jobs; there must be at least one job; and the root
should say which permissions its runs have.
-/

namespace WorkflowLint

open Diagnostic (when)

namespace RequiredKeys

/-- The identifier of the rule. -/
def id : String :=
  "required-keys"

/-- The keys that the root must have. -/
def keys : List String :=
  ["name", "on", "jobs"]

/-- The diagnostic for a missing key. -/
def missing (key : String) : Diagnostic :=
  (Diagnostic.error id ("Missing required top-level key: '" ++ key ++ "'")).suggest
    ("Add a top-level `" ++ key ++ ":` section")

/-- One error for each missing key. -/
def check (w : Workflow) : Findings :=
  (keys.filter fun key => !w.root.contains key).map missing

def rule : Rule where
  id := id
  name := "Required Keys"
  description := "Ensures the workflow declares name, on and jobs"
  severity := .error
  check := fun w _ => check w

end RequiredKeys

namespace PermissionsDeclared

/-- The identifier of the rule. -/
def id : String :=
  "permissions-declared"

/-- Permissions are absent, null or without entries. -/
def isUndeclared : View → Bool
  | .absent | .null => true
  | .mapping entries => entries.isEmpty
  | _ => false

/-- The diagnostic for missing permissions. -/
def missing : Diagnostic :=
  (Diagnostic.warning id "No permissions block defined (defaults to broad permissions)").suggest
    "Add `permissions:` with `contents: read`"

/-- A warning if permissions are not declared. -/
def check (w : Workflow) : Findings :=
  when (isUndeclared (w.get "permissions")) missing

def rule : Rule where
  id := id
  name := "Permissions Declared"
  description := "Warns when no top-level permissions block is declared"
  severity := .warning
  check := fun w _ => check w

end PermissionsDeclared

namespace JobsDefined

/-- The identifier of the rule. -/
def id : String :=
  "jobs-defined"

/-- An error if there is no job. -/
def check (w : Workflow) : Findings :=
  when (!w.jobs.isFilledMapping) (Diagnostic.error id "No jobs defined")

def rule : Rule where
  id := id
  name := "Jobs Defined"
  description := "Ensures the jobs section declares at least one job"
  severity := .error
  check := fun w _ => check w

end JobsDefined

end WorkflowLint
