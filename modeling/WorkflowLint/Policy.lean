import WorkflowLint.Files.Location

/-!
# Policies

The values that a workflow is compared with, and the names that stand for them in a policy
file.
-/

namespace WorkflowLint

/-- The values that a workflow is compared with. -/
structure Policy where
  /-- Where the workflow lies, seen from the root of the project. -/
  workflowPath : String
  /-- The one repository, `owner/name`, that the workflow may refer to. -/
  expectedRepo : String
  /-- The application that the smoke job installs and launches. -/
  expectedPackage : String
  /-- What the build job's runner must have in its name. -/
  runnerFamily : String
  /-- The accepted versions of the JDK. -/
  jdkVersions : List String
  deriving DecidableEq, Repr

namespace Policy

/-- The policy that holds where no other is given. -/
def standard : Policy where
  workflowPath := ".github/workflows/smoke-test.yml"
  expectedRepo := "maceip/MediaMaid"
  expectedPackage := "ai.musicconverter"
  runnerFamily := "ubuntu"
  jdkVersions := ["17", "21"]

/-- The characters before the first slash; all of them if there is none. -/
def ownerOf (repo : List Char) : List Char :=
  repo.takeWhile (· != '/')

/-- The owner of the expected repository. -/
def owner (p : Policy) : String :=
  String.ofList (ownerOf p.expectedRepo.toList)

/-- A repository is an owner and a name, neither of them empty, with one slash between. -/
def isRepo (repo : String) : Bool :=
  match repo.toList.dropWhile (· != '/') with
  | '/' :: name => !(ownerOf repo.toList).isEmpty && !name.isEmpty && !name.contains '/'
  | _ => false

/-- Two policies hold the same values; the location of the workflow may be written differently. -/
def same (p q : Policy) : Bool :=
  Location.same p.workflowPath q.workflowPath && p.expectedRepo == q.expectedRepo &&
    p.expectedPackage == q.expectedPackage && p.runnerFamily == q.runnerFamily &&
    p.jdkVersions == q.jdkVersions

def acceptsJdk (p : Policy) (version : String) : Bool :=
  p.jdkVersions.contains version

end Policy

end WorkflowLint
