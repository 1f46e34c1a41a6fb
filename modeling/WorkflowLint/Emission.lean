import WorkflowLint.Validation

/-!
# Emissions — rules as procedures on a shared sink

The rules of a run may also be carried out one after another on one sink. Each of them gets the
sink as the rules before it have left it, adds its findings as it makes them, and may return early.
A procedure of this kind could look at what it finds in the sink, or change it; that it does
neither is a matter of proof. This module defines

* `Emission` — procedures that work on a sink, and the findings of a procedure run alone;
* for each of the rules that are always there, the procedure that carries it out;
* `Checker` — these rules and rules with fixed findings, and the run of a list of them.
-/

namespace WorkflowLint

/-- A procedure that works on the findings made so far. -/
abbrev Emission := StateM Findings Unit

namespace Emission

/-- Adds a finding behind all others. -/
def push (d : Diagnostic) : Emission :=
  modify fun sink => sink ++ [d]

/-- Adds an error. -/
def error (rule message : String) : Emission :=
  push (.error rule message)

/-- Adds a warning. -/
def warning (rule message : String) : Emission :=
  push (.warning rule message)

/-- A procedure that is carried out if a condition holds. -/
def when (condition : Bool) (e : Emission) : Emission :=
  if condition then e else pure ()

/-- What is in a sink after a procedure. -/
def after (e : Emission) (sink : Findings) : Findings :=
  (e.run sink).2

/-- What a procedure finds by itself, on an empty sink. -/
def alone (e : Emission) : Findings :=
  e.after []

end Emission

open Emission (push when)

/-! ## Rules as procedures -/

def RequiredKeys.emit (w : Workflow) : Emission :=
  keys.forM fun key => when (!w.root.contains key) (push (missing key))

def DispatchTrigger.emit (w : Workflow) : Emission :=
  match Dispatch.find (w.get "on") with
  | .missing => push missing
  | .bare => Emission.warning id "workflow_dispatch has no inputs defined"
  | .declared value =>
    if value.isFilledMapping then
      let input := (value.get "inputs").get "ref"
      if input.isAbsent then
        Emission.warning id "workflow_dispatch missing 'ref' input"
      else
        when ((input.get "type").string? != some "string")
          (Emission.warning id "'ref' input should be of type 'string'")
    else
      Emission.warning id "workflow_dispatch has no inputs defined"

def PermissionsDeclared.emit (w : Workflow) : Emission :=
  let undeclared := match w.get "permissions" with
    | .absent => true
    | .mapping entries => entries.isEmpty
    | v => v.isNull
  when undeclared (push missing)

def JobsDefined.emit (w : Workflow) : Emission :=
  match w.jobs with
  | .mapping (_ :: _) => pure ()
  | _ => Emission.error id "No jobs defined"

/-- The part about one step: only those that set up a JDK matter. -/
def BuildJob.emitVersion (p : Policy) (s : Step) : Emission :=
  if !Text.contains s.uses setupJava then pure ()
  else
    let version := (s.param "java-version").text
    when (version != "" && !p.acceptsJdk version)
      (Emission.warning id ("Unusual JDK version: " ++ version))

def BuildJob.emit (w : Workflow) (p : Policy) : Emission :=
  match w.job? job with
  | none => Emission.error id "Missing 'build' job"
  | some j => do
    let runner := j.runsOn.text
    when (!Text.contains runner p.runnerFamily)
      (Emission.warning id
        ("Build job runs-on '" ++ runner ++ "' (expected " ++ p.runnerFamily ++ "-based runner)"))
    when (!j.usesAction "actions/checkout")
      (Emission.error id "Build job missing actions/checkout step")
    when (!j.usesAction setupJava)
      (Emission.error id "Build job missing actions/setup-java step")
    j.steps.forM (emitVersion p)
    when (!usesGradle j && !j.runsCommand "gradlew")
      (Emission.error id "Build job missing Gradle setup or gradlew invocation")
    when (!j.runsCommand "assembleDebug")
      (Emission.error id "Build job doesn't run assembleDebug")
    when (!j.usesAction "actions/upload-artifact")
      (Emission.error id "Build job missing artifact upload step")

def SmokeJob.emit (w : Workflow) (p : Policy) : Emission :=
  match w.job? job with
  | none => Emission.error id "Missing 'smoke' job"
  | some j => do
    when (!j.needs.contains BuildJob.job) (push independent)
    when (!j.usesAction "actions/download-artifact")
      (Emission.error id "Smoke job missing artifact download step")
    when (!j.runsCommand "adb wait-for-device")
      (Emission.warning id "Smoke job should wait for emulator (adb wait-for-device)")
    when (!j.runsCommand "adb install")
      (Emission.error id "Smoke job missing APK install step (adb install)")
    when (!j.runsCommand "adb shell am start")
      (Emission.error id "Smoke job missing app launch step (adb shell am start)")
    when (!j.runsCommand "FATAL EXCEPTION")
      (Emission.warning id "Smoke job should check for FATAL EXCEPTION in logcat")
    when (!Text.contains j.runText p.expectedPackage)
      (Emission.error id
        ("Smoke job doesn't reference expected package '" ++ p.expectedPackage ++ "'"))

def RepoReferences.emit (w : Workflow) (p : Policy) : Emission :=
  (Reference.findAll p.owner w.source).forM fun found =>
    when (found != p.expectedRepo) (push (incorrect p.expectedRepo found))

/-! ## Runs -/

/-- A rule that can be carried out on a sink: one that is always there, or a stand-in under any
identifier that finds the same in every workflow. -/
inductive Checker
  | requiredKeys
  | dispatchTrigger
  | permissionsDeclared
  | jobsDefined
  | buildJob
  | smokeJob
  | repoReferences
  | standIn (id : String) (findings : Findings)

namespace Checker

def isBuiltin : Checker → Bool
  | .standIn _ _ => false
  | _ => true

/-- The rule itself. -/
def rule : Checker → Rule
  | .requiredKeys => RequiredKeys.rule
  | .dispatchTrigger => DispatchTrigger.rule
  | .permissionsDeclared => PermissionsDeclared.rule
  | .jobsDefined => JobsDefined.rule
  | .buildJob => BuildJob.rule
  | .smokeJob => SmokeJob.rule
  | .repoReferences => RepoReferences.rule
  | .standIn id findings => ⟨id, "Mock", "mock rule", .warning, fun _ _ => findings⟩

/-- Carries the rule out. -/
def emit (w : Workflow) (p : Policy) : Checker → Emission
  | .requiredKeys => RequiredKeys.emit w
  | .dispatchTrigger => DispatchTrigger.emit w
  | .permissionsDeclared => PermissionsDeclared.emit w
  | .jobsDefined => JobsDefined.emit w
  | .buildJob => BuildJob.emit w p
  | .smokeJob => SmokeJob.emit w p
  | .repoReferences => RepoReferences.emit w p
  | .standIn _ findings => findings.forM push

/-- The registry of the rules of checkers. -/
def registry (checkers : List Checker) : Registry :=
  checkers.map rule

/-- Carries rules out in order, all on one sink. -/
def emitAll (checkers : List Checker) (w : Workflow) (p : Policy) : Emission :=
  checkers.forM (emit w p)

/-- Validates a text on a fresh sink. What a text that is no workflow leaves in it ends the run. -/
def validate (checkers : List Checker) (source : String) (p : Policy) : Findings :=
  match Workflow.parse source with
  | .error cause => (Emission.error syntaxRule cause.message).alone
  | .ok w => (emitAll checkers w p).alone

end Checker

end WorkflowLint
