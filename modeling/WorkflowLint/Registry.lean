import WorkflowLint.Rules.Jobs
import WorkflowLint.Rules.References
import WorkflowLint.Rules.Root
import WorkflowLint.Rules.Trigger

/-!
# Registries

A registry holds rules in the order in which they run. A rule that is registered under an
identifier already present takes the place of the rule that had it. A run puts the findings
of the rules one after another.
-/

namespace WorkflowLint

/-- Rules in the order in which they run. -/
abbrev Registry := List Rule

namespace Registry

/-- The registry with one more rule, or with a rule replaced. -/
def register (rule : Rule) : Registry → Registry
  | [] => [rule]
  | r :: rest => if r.id == rule.id then rule :: rest else r :: register rule rest

/-- The registry after rules have been registered in order. -/
def registerAll (registry : Registry) (rules : List Rule) : Registry :=
  rules.foldl (fun registry rule => register rule registry) registry

/-- The rules that are always there. -/
def builtins : Registry :=
  [RequiredKeys.rule, DispatchTrigger.rule, PermissionsDeclared.rule, JobsDefined.rule,
    BuildJob.rule, SmokeJob.rule, RepoReferences.rule]

/-- The rule with an identifier. -/
def get? (registry : Registry) (id : String) : Option Rule :=
  registry.find? fun r => r.id == id

/-- The identifiers in order. -/
def ids (registry : Registry) : List String :=
  registry.map Rule.id

/-- What each rule finds. -/
def results (registry : Registry) (w : Workflow) (p : Policy) : List (String × Findings) :=
  registry.map fun r => (r.id, r.check w p)

/-- What the rules find, one rule after another. -/
def run (registry : Registry) (w : Workflow) (p : Policy) : Findings :=
  registry.flatMap fun r => r.check w p

theorem flatMap_results (registry : Registry) (w : Workflow) (p : Policy) :
    (registry.results w p).flatMap Prod.snd = registry.run w p := by
  simp [results, run, List.flatMap_map]

end Registry

end WorkflowLint
