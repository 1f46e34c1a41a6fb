import WorkflowLint.Text.Search
import WorkflowLint.Workflow.Document

/-!
# Jobs and steps

What rules ask about a job: where it runs, what it needs, and what its steps use and run.
-/

namespace WorkflowLint

/-- A step of a job. -/
structure Step where
  view : View

namespace Step

/-- The action that a step uses, or nothing. -/
def uses (s : Step) : String :=
  (s.view.get "uses").text

/-- The script that a step runs, or nothing. -/
def run (s : Step) : String :=
  (s.view.get "run").text

/-- A parameter of the action. -/
def param (s : Step) (name : String) : View :=
  (s.view.get "with").get name

end Step

/-- A job of a workflow. -/
structure Job where
  view : View

namespace Job

def runsOn (j : Job) : View :=
  j.view.get "runs-on"

/-- The jobs that the job waits for. -/
def needs (j : Job) : List String :=
  (j.view.get "needs").strings

/-- The steps in order. -/
def steps (j : Job) : List Step :=
  (j.view.get "steps").items.map Step.mk

/-- Some step uses an action with the name in its text. -/
def usesAction (j : Job) (name : String) : Bool :=
  j.steps.any fun s => Text.contains s.uses name

/-- Some step runs a script with the token in its text. -/
def runsCommand (j : Job) (token : String) : Bool :=
  j.steps.any fun s => Text.contains s.run token

/-- The scripts of all steps with a space between neighbours. -/
def runText (j : Job) : String :=
  String.intercalate " " (j.steps.map Step.run)

end Job

namespace Workflow

/-- The section of the jobs. -/
def jobs (w : Workflow) : View :=
  w.get "jobs"

/-- The job with a name, even one without a body. -/
def job? (w : Workflow) (name : String) : Option Job :=
  match w.jobs.get name with
  | .absent => none
  | view => some ⟨view⟩

end Workflow

end WorkflowLint
