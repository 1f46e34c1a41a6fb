import WorkflowLint.CommandLine.Arguments
import WorkflowLint.Files.Location
import WorkflowLint.Log.Event
import WorkflowLint.Policy.Decode
import WorkflowLint.Report.Delivery
import WorkflowLint.Report.Format

/-!
# Runs of the commands

A check reads its policy and its workflow, judges the workflow and reports. A policy that is asked
for and cannot be had is a failure, and then nothing is reported; a workflow that cannot be read
is a finding like others. How files are read is left open, so that a run can be looked at without
a disk.
-/

namespace WorkflowLint

/-- Why a command fails to report. -/
inductive Failure
  | unreadablePolicy (location : String)
  | invalidPolicy (location : String) (cause : Policy.ParseError)
  /-- The report could not be written. -/
  | unwritable (reason : String)
  deriving Repr

def Failure.message : Failure → String
  | .unreadablePolicy location => "Failed to read policy file " ++ location
  | .invalidPolicy location cause =>
    "Failed to parse policy at " ++ location ++ ": " ++ cause.message
  | .unwritable reason => "IO error: " ++ reason

/-- What a command has to say. -/
structure Outcome where
  /-- The text for the reader, in pieces. -/
  pieces : List String
  passed : Bool
  /-- The events after the text is written. -/
  closing : List Log.Event

/-- What a command comes to: the events before anything is written, and the outcome. -/
structure Run where
  events : List Log.Event
  outcome : Except Failure Outcome

/-! ## Checks -/

namespace Check

/-- The location of the policy that is asked for. -/
def policyLocation (root : String) (o : CheckOptions) : Option String :=
  o.policy.map (Location.join root)

/-- The location of the workflow: the one that is asked for, or else the policy's. -/
def workflowLocation (root : String) (file : Option String) (p : Policy) : String :=
  Location.join root (file.getD p.workflowPath)

/-- A file that is asked for by an absolute location is checked where it is. -/
theorem workflowLocation_of_isAbsolute {file : String} (h : Location.isAbsolute file = true)
    (root : String) (p : Policy) : workflowLocation root (some file) p = file :=
  Location.join_of_isAbsolute h root

/-- Any other file that is asked for is looked for under the root. -/
theorem workflowLocation_of_not_isAbsolute {file : String}
    (h : Location.isAbsolute file = false) (root : String) (p : Policy) :
    workflowLocation root (some file) p =
      root ++ (if root == "" || Location.isOpen root then "" else "/") ++ file :=
  Location.join_of_not_isAbsolute h root

/-- Where no file is asked for, it is as if the policy's were. -/
theorem workflowLocation_none (root : String) (p : Policy) :
    workflowLocation root none p = workflowLocation root (some p.workflowPath) p :=
  rfl

/-- The policy in a file that has been read. -/
def policyOfContents (location : String) : Contents → Except Failure Policy
  | .error _ => .error (.unreadablePolicy location)
  | .ok content => (Policy.parse content).mapError (.invalidPolicy location)

/-- The report about a validation. -/
def report (o : CheckOptions) (location : String) (v : Validation) : Report :=
  ⟨location, v.findings, o.strict⟩

/-- What a check says about a report. -/
def outcome (palette : Palette) (o : CheckOptions) (r : Report) : Outcome where
  pieces := r.pieces palette o.format
  passed := r.passed
  closing := [.finished r.findings.errors.length r.findings.warnings.length]

variable {m : Type → Type} [Monad m]

def loadPolicy (read : String → m Contents) (root : String) (o : CheckOptions) :
    m (Except Failure Policy) :=
  match policyLocation root o with
  | none => return .ok .standard
  | some location => return policyOfContents location (← read location)

/-- Runs a check. -/
def run (read : String → m Contents) (palette : Palette) (root : String) (o : CheckOptions) :
    m Run := do
  let loading := (policyLocation root o).toList.map .loadingPolicy
  match ← loadPolicy read root o with
  | .error e => return ⟨loading, .error e⟩
  | .ok p =>
    let location := workflowLocation root o.file p
    -- the policy comes first, for it may say where the workflow lies
    let v := Validation.ofContents .builtins p location (← read location)
    return ⟨loading ++ .validating location :: Log.ofValidation v,
      .ok (outcome palette o (report o location v))⟩

end Check

/-! ## Lists of rules -/

namespace Rules

/-- The line of a rule, after its number. -/
def line (number : Nat) (rule : Rule) : String :=
  Text.padLeft 2 (toString number) ++ ". " ++ Text.padRight 22 rule.id ++ " " ++
    Text.padRight 8 rule.severity.name ++ " " ++ rule.description

/-- The lines of rules, numbered from one. -/
def lines (registry : Registry) : List String :=
  registry.zipIdx.map fun r => line (r.2 + 1) r.1

/-- What listing the rules comes to. -/
def run : Run :=
  ⟨[], .ok ⟨(lines .builtins).map (· ++ "\n"), true, []⟩⟩

end Rules

/-! ## Commands -/

/-- Runs a command, seen from the root of a project. Without a command, that is a check. -/
def Command.run {m : Type → Type} [Monad m] (read : String → m Contents) (palette : Palette)
    (root : String) : Option Command → m Run
  | some (.check o) => Check.run read palette root o
  | some .rules => return Rules.run
  | none => Check.run read palette root .standard

/-! ## Delivery of outcomes -/

namespace Run

/-- What was written of a run's text, and whether the run passes or why it fails. -/
def deliver (room : Room) (r : Run) : List UInt8 × Except Failure Bool :=
  match r.outcome with
  | .error e => ([], .error e)
  | .ok o =>
    let d := Delivery.run room o.pieces
    (d.accepted, if d.complete then .ok o.passed else .error (.unwritable Delivery.fullReason))

/-- The status with which a program ends. -/
def status : Except Failure Bool → Nat
  | .ok true => 0
  | _ => 1

end Run

end WorkflowLint
