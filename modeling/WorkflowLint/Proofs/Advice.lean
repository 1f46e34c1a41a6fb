import WorkflowLint.Proofs.Emission
import WorkflowLint.Proofs.Gate
import WorkflowLint.Proofs.Yaml.Reading

/-!
# Advice — the warnings of a run

Warnings are advice: they fail strict runs only. `Advice` lists what is advised about each part of
a workflow that rules look at, in terms of its keys, texts and steps. Each rule has a lemma that
tells its warnings, and `warnings_validate_eq` puts them together: a run gives this advice, in this
order, and no other.
-/

namespace WorkflowLint

open Diagnostic (when)

/-! ## Warnings among findings -/

namespace Findings

variable {f g : Findings}

theorem warnings_append : warnings (f ++ g) = f.warnings ++ g.warnings :=
  List.filter_append ..

theorem warnings_eq_nil (h : ∀ d ∈ f, d.severity = .error) : f.warnings = [] := by
  rw [warnings, ofSeverity, List.filter_eq_nil_iff]
  intro d hd
  rw [h d hd]
  decide

theorem warnings_eq_self (h : ∀ d ∈ f, d.severity = .warning) : f.warnings = f := by
  rw [warnings, ofSeverity, List.filter_eq_self]
  intro d hd
  rw [h d hd]
  decide

theorem warnings_when_error {d : Diagnostic} (h : d.severity = .error) (condition : Bool) :
    warnings (when condition d) = [] := by
  apply warnings_eq_nil
  cases condition <;> simp [when, h]

theorem warnings_when_warning {d : Diagnostic} (h : d.severity = .warning) (condition : Bool) :
    warnings (when condition d) = when condition d := by
  apply warnings_eq_self
  cases condition <;> simp [when, h]

end Findings

/-! ## What is asked of a workflow -/

instance (v : View) (key : String) : Decidable (v.HasKey key) :=
  decidable_of_iff _ View.contains_iff

instance (job : View) (key part : String) : Decidable (job.SomeStep key part) :=
  inferInstanceAs (Decidable (∃ step ∈ (job.get "steps").items, _))

instance (triggers : View) : Decidable (DeclaresDispatch triggers) :=
  decidable_of_iff (triggers.HasKey "workflow_dispatch" ∨
      triggers.items.any (·.string? == some "workflow_dispatch") = true ∨
      triggers.string? = some "workflow_dispatch") <| by
    rw [View.any_string?_iff, View.string?_eq_some_iff, DeclaresDispatch]

/-- Nothing is said about permissions: they are missing, null or a mapping without entries. -/
def LacksPermissions (permissions : View) : Prop :=
  permissions = .absent ∨ permissions = .null ∨ permissions = .mapping []

theorem PermissionsDeclared.isUndeclared_iff (v : View) :
    isUndeclared v = true ↔ LacksPermissions v := by
  cases v <;> simp [isUndeclared, LacksPermissions]

instance (permissions : View) : Decidable (LacksPermissions permissions) :=
  decidable_of_iff _ (PermissionsDeclared.isUndeclared_iff permissions)

/-- A job does not run on the expected family of runners. -/
def UnusualRunner (p : Policy) (job : View) : Prop :=
  ¬ p.runnerFamily.toList <:+: (job.get "runs-on").text.toList

instance (p : Policy) (job : View) : Decidable (UnusualRunner p job) :=
  inferInstanceAs (Decidable (¬ _))

/-- A step sets up a JDK of a version that is given and is not accepted. -/
def UnusualJdk (p : Policy) (step : View) : Prop :=
  "actions/setup-java".toList <:+: (step.get "uses").text.toList ∧
    ((step.get "with").get "java-version").text ≠ "" ∧
    ((step.get "with").get "java-version").text ∉ p.jdkVersions

instance (p : Policy) (step : View) : Decidable (UnusualJdk p step) :=
  inferInstanceAs (Decidable (_ ∧ _ ∧ _))

/-! ## Advice -/

namespace Advice

/-- Advice without a suggestion. -/
def advise (rule message : String) : Diagnostic :=
  ⟨rule, .warning, message, none⟩

/-- Advice on a trigger that is declared. A trigger that is an item or stands by itself has no
value, and so no inputs. -/
def dispatch (triggers : View) : Findings :=
  let value := triggers.get "workflow_dispatch"
  let inputs := value.get "inputs"
  if ¬ DeclaresDispatch triggers then []
  else if ¬ value.isFilledMapping then
    [advise "dispatch-trigger" "workflow_dispatch has no inputs defined"]
  else if ¬ inputs.HasKey "ref" then
    [advise "dispatch-trigger" "workflow_dispatch missing 'ref' input"]
  else if ((inputs.get "ref").get "type").string? ≠ some "string" then
    [advise "dispatch-trigger" "'ref' input should be of type 'string'"]
  else []

def permissions (permissions : View) : Findings :=
  if LacksPermissions permissions then
    [⟨"permissions-declared", .warning,
      "No permissions block defined (defaults to broad permissions)",
      some "Add `permissions:` with `contents: read`"⟩]
  else []

/-- Advice on the runner. -/
def runner (p : Policy) (job : View) : Findings :=
  if UnusualRunner p job then
    [advise "build-job" ("Build job runs-on '" ++ (job.get "runs-on").text ++ "' (expected " ++
      p.runnerFamily ++ "-based runner)")]
  else []

/-- Advice on each step with an unusual JDK. -/
def jdks (p : Policy) (job : View) : Findings :=
  ((job.get "steps").items.filter fun step => UnusualJdk p step).map fun step =>
    advise "build-job"
      ("Unusual JDK version: " ++ ((step.get "with").get "java-version").text)

/-- Advice on the build job, if there is one. -/
def build (p : Policy) (jobs : View) : Findings :=
  if jobs.HasKey "build" then runner p (jobs.get "build") ++ jdks p (jobs.get "build") else []

/-- Advice on a script that no step runs. -/
def script (job : View) (token message : String) : Findings :=
  if job.SomeStep "run" token then [] else [advise "smoke-job" message]

/-- Advice on the smoke job, if there is one. -/
def smoke (jobs : View) : Findings :=
  if jobs.HasKey "smoke" then
    script (jobs.get "smoke") "adb wait-for-device"
        "Smoke job should wait for emulator (adb wait-for-device)" ++
      script (jobs.get "smoke") "FATAL EXCEPTION"
        "Smoke job should check for FATAL EXCEPTION in logcat"
  else []

end Advice

/-! ## Warnings of the rules -/

theorem RequiredKeys.warnings_check (w : Workflow) : (check w).warnings = [] := by
  apply Findings.warnings_eq_nil
  rw [check, List.forall_mem_map]
  exact fun _ _ => rfl

theorem JobsDefined.warnings_check (w : Workflow) : (check w).warnings = [] :=
  Findings.warnings_when_error rfl _

theorem RepoReferences.warnings_check (w : Workflow) (p : Policy) :
    (rule.check w p).warnings = [] := by
  apply Findings.warnings_eq_nil
  show ∀ d ∈ checkSource p w.source, _
  rw [checkSource, List.forall_mem_map]
  exact fun _ _ => rfl

/-- A trigger has a body if the value under its key is a mapping with entries. -/
theorem Dispatch.body?_find (triggers : View) :
    (find triggers).body? =
      if (triggers.get "workflow_dispatch").isFilledMapping then
        some (triggers.get "workflow_dispatch")
      else none := by
  unfold find
  split
  · -- a missing key has no value with entries
    split
    · next hget =>
      rw [← Dispatch.key, hget]
      rfl
    · rfl
  · split <;> rfl
  · next hmapping hsequence =>
    have hget : triggers.get "workflow_dispatch" = .absent := by
      cases triggers with
      | mapping entries => exact absurd rfl (hmapping entries)
      | _ => rfl
    rw [hget]
    split <;> rfl

theorem DispatchTrigger.checkInput_eq (inputs : View) :
    checkInput (inputs.get "ref") =
      if ¬ inputs.HasKey "ref" then
        [Advice.advise "dispatch-trigger" "workflow_dispatch missing 'ref' input"]
      else if ((inputs.get "ref").get "type").string? ≠ some "string" then
        [Advice.advise "dispatch-trigger" "'ref' input should be of type 'string'"]
      else [] := by
  simp only [checkInput, View.isAbsent_iff, View.get_eq_absent_iff, when, bne_iff_ne]
  rfl

theorem DispatchTrigger.warnings_check (w : Workflow) :
    (check w).warnings = Advice.dispatch (w.get "on") := by
  have hfind := Dispatch.find_eq_missing_iff (w.get "on")
  have hbody := Dispatch.body?_find (w.get "on")
  unfold check Advice.dispatch
  split
  · next hmissing =>
    rw [if_pos (hfind.1 hmissing)]
    rfl
  · next hdeclared =>
    rw [if_neg (fun hno => hdeclared (hfind.2 hno)), hbody]
    cases hfilled : ((w.get "on").get "workflow_dispatch").isFilledMapping with
    | false => rfl
    | true =>
        -- at most one warning is left, and no error
        rw [if_pos rfl]
        simp only [checkInput_eq, not_true_eq_false, if_false]
        split
        · rfl
        · split <;> rfl

theorem PermissionsDeclared.warnings_check (w : Workflow) :
    (check w).warnings = Advice.permissions (w.get "permissions") := by
  rw [check, Findings.warnings_when_warning rfl, Advice.permissions, when]
  simp only [isUndeclared_iff]
  rfl

namespace BuildJob

theorem checkRunner_eq (p : Policy) (j : Job) : checkRunner p j = Advice.runner p j.view := by
  have hcondition : (!Text.contains j.runsOn.text p.runnerFamily) = true ↔
      UnusualRunner p j.view := by
    rw [Bool.not_eq_true', ← Bool.not_eq_true, Text.contains_iff_isInfix]
    rfl
  simp only [checkRunner, when, hcondition]
  rfl

theorem checkVersion_condition_iff (p : Policy) (s : Step) :
    (Text.contains s.uses setupJava && (s.param "java-version").text != "" &&
      !p.acceptsJdk (s.param "java-version").text) = true ↔ UnusualJdk p s.view := by
  rw [Bool.and_eq_true, Bool.and_eq_true, Text.contains_iff_isInfix, bne_iff_ne,
    Policy.acceptsJdk, Bool.not_eq_true', ← Bool.not_eq_true, List.contains_iff_mem, and_assoc]
  rfl

theorem flatMap_checkVersion (p : Policy) (j : Job) :
    j.steps.flatMap (checkVersion p) = Advice.jdks p j.view := by
  have hcondition : (fun s : Step => Text.contains s.uses setupJava &&
      (s.param "java-version").text != "" && !p.acceptsJdk (s.param "java-version").text) =
        fun s => decide (UnusualJdk p s.view) := by
    funext s
    rw [Bool.eq_iff_iff, checkVersion_condition_iff, decide_eq_true_iff]
  show j.steps.flatMap (fun s => when _ _) = _
  rw [flatMap_when, hcondition, Job.steps, List.filter_map, List.map_map]
  rfl

theorem warnings_check (w : Workflow) (p : Policy) :
    (check w p).warnings = Advice.build p w.jobs := by
  rcases w.job?_cases "build" with ⟨hjob, hno⟩ | ⟨hjob, hkey⟩
  · rw [check, job, hjob, Advice.build, if_neg hno]
    rfl
  · have hrunner : (Advice.runner p (w.jobs.get "build")).warnings =
        Advice.runner p (w.jobs.get "build") := by
      unfold Advice.runner
      split <;> rfl
    have hjdks : (Advice.jdks p (w.jobs.get "build")).warnings =
        Advice.jdks p (w.jobs.get "build") := by
      apply Findings.warnings_eq_self
      rw [Advice.jdks, List.forall_mem_map]
      exact fun _ _ => rfl
    have herror : ∀ condition message, Findings.warnings (when condition (error message)) = [] :=
      fun condition message => Findings.warnings_when_error rfl condition
    rw [check, job, hjob, Advice.build, if_pos hkey]
    simp only [checkJob, Findings.warnings_append, checkRunner_eq, flatMap_checkVersion, hrunner,
      hjdks, herror, List.append_nil]

end BuildJob

namespace SmokeJob

theorem when_not_runsCommand (j : Job) (token message : String) :
    when (!j.runsCommand token) (Diagnostic.warning id message) =
      Advice.script j.view token message := by
  simp only [when, Bool.not_eq_true', ← Bool.not_eq_true, j.runsCommand_iff, Advice.script,
    ite_not]
  rfl

theorem warnings_check (w : Workflow) (p : Policy) :
    (check w p).warnings = Advice.smoke w.jobs := by
  rcases w.job?_cases "smoke" with ⟨hjob, hno⟩ | ⟨hjob, hkey⟩
  · rw [check, job, hjob, Advice.smoke, if_neg hno]
    rfl
  · have herror : ∀ condition message, Findings.warnings (when condition (error message)) = [] :=
      fun condition message => Findings.warnings_when_error rfl condition
    have hindependent : ∀ condition, Findings.warnings (when condition independent) = [] :=
      Findings.warnings_when_error rfl
    have hscript : ∀ job token message,
        (Advice.script job token message).warnings = Advice.script job token message := by
      intro job token message
      unfold Advice.script
      split <;> rfl
    rw [check, job, hjob, Advice.smoke, if_pos hkey]
    simp only [checkJob, Findings.warnings_append, herror, hindependent, when_not_runsCommand,
      hscript, List.append_nil, List.nil_append]

end SmokeJob

/-! ## Runs -/

/-- A run puts the findings of the seven rules one after another. -/
theorem Registry.run_builtins_eq (w : Workflow) (p : Policy) :
    run builtins w p =
      RequiredKeys.check w ++ DispatchTrigger.check w ++ PermissionsDeclared.check w ++
        JobsDefined.check w ++ BuildJob.check w p ++ SmokeJob.check w p ++
        RepoReferences.rule.check w p := by
  simp only [run, builtins, List.flatMap_cons, List.flatMap_nil, List.append_nil,
    List.append_assoc]
  rfl

/-- The warnings about a workflow are the advice on its trigger, its permissions, its build job and
its smoke job, in this order, and nothing else. -/
theorem warnings_validate_eq {source : String} {w : Workflow}
    (h : Workflow.parse source = .ok w) (p : Policy) :
    (validate source p).warnings =
      Advice.dispatch (w.get "on") ++ Advice.permissions (w.get "permissions") ++
        Advice.build p w.jobs ++ Advice.smoke w.jobs := by
  rw [validate, validateWith_of_ok h, Registry.run_builtins_eq]
  simp only [Findings.warnings_append, RequiredKeys.warnings_check,
    DispatchTrigger.warnings_check, PermissionsDeclared.warnings_check, JobsDefined.warnings_check,
    BuildJob.warnings_check, SmokeJob.warnings_check, RepoReferences.warnings_check,
    List.nil_append, List.append_nil]

/-- A workflow that gets advice on everything. -/
def carelessSource : String :=
  "on: workflow_dispatch\n" ++
    "jobs:\n" ++
    "  build:\n" ++
    "    runs-on: windows\n" ++
    "    steps:\n" ++
    "      - uses: actions/setup-java@v4\n" ++
    "        with: \x7bjava-version: 8\x7d\n" ++
    "  smoke:\n"

theorem warnings_validate_carelessSource :
    ∃ w, Workflow.parse carelessSource = .ok w ∧
      (validate carelessSource .standard).warnings.map Diagnostic.message =
        ["workflow_dispatch has no inputs defined",
          "No permissions block defined (defaults to broad permissions)",
          "Build job runs-on 'windows' (expected ubuntu-based runner)",
          "Unusual JDK version: 8",
          "Smoke job should wait for emulator (adb wait-for-device)",
          "Smoke job should check for FATAL EXCEPTION in logcat"] := by
  have hadvice : (Workflow.parse carelessSource).toOption.map (fun w =>
      (Advice.dispatch (w.get "on") ++ Advice.permissions (w.get "permissions") ++
        Advice.build .standard w.jobs ++ Advice.smoke w.jobs).map Diagnostic.message) =
      some ["workflow_dispatch has no inputs defined",
        "No permissions block defined (defaults to broad permissions)",
        "Build job runs-on 'windows' (expected ubuntu-based runner)",
        "Unusual JDK version: 8",
        "Smoke job should wait for emulator (adb wait-for-device)",
        "Smoke job should check for FATAL EXCEPTION in logcat"] := by
    decide +kernel
  rcases Option.map_eq_some_iff.1 hadvice with ⟨w, hw, hmessages⟩
  have hparse := eq_ok_of_toOption hw
  exact ⟨w, hparse, by rw [warnings_validate_eq hparse, hmessages]⟩

end WorkflowLint
