import WorkflowLint.Rule

/-!
# Rules about the jobs of a workflow

The build job checks out the sources, sets up a JDK and Gradle, builds the application and
uploads it. The smoke job comes after it, downloads, installs and starts the application on
an emulator, and looks for crashes. What is missing is found in the texts of the steps.
-/

namespace WorkflowLint

open Diagnostic (when)

namespace BuildJob

/-- The identifier of the rule. -/
def id : String :=
  "build-job"

/-- The name of the job. -/
def job : String :=
  "build"

/-- The action that sets up a JDK. -/
def setupJava : String :=
  "actions/setup-java"

/-- An error of this rule. -/
def error (message : String) : Diagnostic :=
  Diagnostic.error id message

/-- A warning if the runner is none of the expected family. -/
def checkRunner (p : Policy) (j : Job) : Findings :=
  let runner := j.runsOn.text
  when (!Text.contains runner p.runnerFamily)
    (Diagnostic.warning id
      ("Build job runs-on '" ++ runner ++ "' (expected " ++ p.runnerFamily ++ "-based runner)"))

/-- A warning if a step sets up a JDK of a version that is not accepted. -/
def checkVersion (p : Policy) (s : Step) : Findings :=
  let version := (s.param "java-version").text
  when (Text.contains s.uses setupJava && version != "" && !p.acceptsJdk version)
    (Diagnostic.warning id ("Unusual JDK version: " ++ version))

/-- Some step uses an action with Gradle in its name. -/
def usesGradle (j : Job) : Bool :=
  j.steps.any fun s => Text.contains (Text.lowerLetters s.uses) "gradle"

/-- The findings about a build job. -/
def checkJob (p : Policy) (j : Job) : Findings :=
  checkRunner p j ++
    when (!j.usesAction "actions/checkout") (error "Build job missing actions/checkout step") ++
    when (!j.usesAction setupJava) (error "Build job missing actions/setup-java step") ++
    j.steps.flatMap (checkVersion p) ++
    when (!usesGradle j && !j.runsCommand "gradlew")
      (error "Build job missing Gradle setup or gradlew invocation") ++
    when (!j.runsCommand "assembleDebug") (error "Build job doesn't run assembleDebug") ++
    when (!j.usesAction "actions/upload-artifact")
      (error "Build job missing artifact upload step")

/-- The findings about the build job of a workflow. -/
def check (w : Workflow) (p : Policy) : Findings :=
  match w.job? job with
  | none => [error "Missing 'build' job"]
  | some j => checkJob p j

def rule : Rule where
  id := id
  name := "Build Job"
  description := "Ensures the build job checks out, sets up a JDK and Gradle, assembles and " ++
    "uploads the debug APK"
  severity := .error
  check := check

end BuildJob

namespace SmokeJob

/-- The identifier of the rule. -/
def id : String :=
  "smoke-job"

/-- The name of the job. -/
def job : String :=
  "smoke"

/-- An error of this rule. -/
def error (message : String) : Diagnostic :=
  Diagnostic.error id message

/-- The diagnostic for a job that does not wait for the build job. -/
def independent : Diagnostic :=
  (error "Smoke job must depend on 'build' job (needs: build)").suggest
    "Add `needs: build` to the smoke job"

/-- The findings about a smoke job. -/
def checkJob (p : Policy) (j : Job) : Findings :=
  when (!j.needs.contains BuildJob.job) independent ++
    when (!j.usesAction "actions/download-artifact")
      (error "Smoke job missing artifact download step") ++
    when (!j.runsCommand "adb wait-for-device")
      (Diagnostic.warning id "Smoke job should wait for emulator (adb wait-for-device)") ++
    when (!j.runsCommand "adb install")
      (error "Smoke job missing APK install step (adb install)") ++
    when (!j.runsCommand "adb shell am start")
      (error "Smoke job missing app launch step (adb shell am start)") ++
    when (!j.runsCommand "FATAL EXCEPTION")
      (Diagnostic.warning id "Smoke job should check for FATAL EXCEPTION in logcat") ++
    when (!Text.contains j.runText p.expectedPackage)
      (error ("Smoke job doesn't reference expected package '" ++ p.expectedPackage ++ "'"))

/-- The findings about the smoke job of a workflow. -/
def check (w : Workflow) (p : Policy) : Findings :=
  match w.job? job with
  | none => [error "Missing 'smoke' job"]
  | some j => checkJob p j

def rule : Rule where
  id := id
  name := "Smoke Job"
  description := "Ensures the smoke job depends on build, installs and launches the app, and " ++
    "checks for crashes"
  severity := .error
  check := check

end SmokeJob

end WorkflowLint
