import WorkflowLint.Proofs.References.Overlap
import WorkflowLint.Proofs.Views.Access
import WorkflowLint.Proofs.Views.Text
import WorkflowLint.Validation

/-!
# Gate — which texts pass

A text passes, with warnings allowed, if no rule finds an error. `Gate` lists what that takes of
the root of a workflow and of its text, rule by rule and without the rules. Each rule has a lemma
that turns "finds no error" into its part of the list, and `passed_validate_iff` puts the parts
together: nothing else makes a text fail, and nothing of the list can be left out.
-/

namespace WorkflowLint

open Yaml (Value)

/-! ## Findings without errors -/

namespace Findings

variable {f g : Findings}

theorem hasErrors_append : hasErrors (f ++ g) = (f.hasErrors || g.hasErrors) := by
  simp [hasErrors]

theorem hasErrors_when (condition : Bool) (d : Diagnostic) :
    hasErrors (Diagnostic.when condition d) = (condition && d.severity == .error) := by
  cases condition <;> simp [hasErrors, Diagnostic.when]

theorem hasErrors_map {α : Type} {make : α → Diagnostic} (items : List α)
    (hmake : ∀ a, (make a).severity = .error) : hasErrors (items.map make) = !items.isEmpty := by
  cases items with
  | nil =>
      rfl
  | cons a items =>
      simp [hasErrors, hmake]

theorem hasErrors_flatMap {α : Type} (items : List α) (find : α → Findings) :
    hasErrors (items.flatMap find) = items.any fun a => (find a).hasErrors := by
  simp [hasErrors, List.any_flatMap]

theorem passed_false : f.passed false = true ↔ f.hasErrors = false := by
  simp [passed]

end Findings

/-! ## The root -/

theorem RequiredKeys.hasErrors_check_iff (w : Workflow) :
    (check w).hasErrors = false ↔
      w.root.HasKey "name" ∧ w.root.HasKey "on" ∧ w.root.HasKey "jobs" := by
  rw [check, Findings.hasErrors_map _ fun _ => rfl]
  simp [keys, View.contains_iff]

theorem PermissionsDeclared.hasErrors_check (w : Workflow) : (check w).hasErrors = false := by
  rw [check, Findings.hasErrors_when]
  simp [missing, Diagnostic.warning, Diagnostic.suggest]

theorem JobsDefined.hasErrors_check_iff (w : Workflow) :
    (check w).hasErrors = false ↔ w.jobs.isFilledMapping = true := by
  rw [check, Findings.hasErrors_when]
  simp [Diagnostic.error]

/-! ## The trigger -/

/-- The section of the triggers names the trigger: as a key with any value, as an item or by
itself. -/
def DeclaresDispatch (triggers : View) : Prop :=
  triggers.HasKey "workflow_dispatch" ∨ .string "workflow_dispatch" ∈ triggers.items ∨
    triggers = .string "workflow_dispatch"

theorem View.string?_eq_some_iff {v : View} {s : String} :
    v.string? = some s ↔ v = .string s := by
  cases v <;> simp [View.string?]

theorem View.any_string?_iff (v : View) (s : String) :
    v.items.any (·.string? == some s) = true ↔ .string s ∈ v.items := by
  simp [View.string?_eq_some_iff]

theorem Dispatch.find_eq_missing_iff (triggers : View) :
    find triggers = .missing ↔ ¬ DeclaresDispatch triggers := by
  have hkey := View.get_eq_absent_iff triggers key
  cases triggers with
  | mapping entries =>
      have hmissing : find (.mapping entries) = .missing ↔
          View.get (.mapping entries) key = .absent := by
        simp only [find]
        split <;> simp_all
      rw [hmissing, hkey]
      simp [DeclaresDispatch, View.items, key]
  | sequence items =>
      have hany := View.any_string?_iff (.sequence items) "workflow_dispatch"
      simp only [find, DeclaresDispatch, View.HasKey, reduceCtorEq, false_and, exists_false,
        false_or, or_false]
      split
      · next hmem =>
        simpa using hany.1 hmem
      · next hno =>
        simpa using fun hmem => hno (hany.2 hmem)
  | string s =>
      simp [find, DeclaresDispatch, View.HasKey, View.items, View.string?, key]
  | _ =>
      simp [find, DeclaresDispatch, View.HasKey, View.items, View.string?]

theorem DispatchTrigger.hasErrors_checkInput (input : View) :
    (checkInput input).hasErrors = false := by
  unfold checkInput
  split
  · rfl
  · rw [Findings.hasErrors_when]
    simp [Diagnostic.warning]

theorem DispatchTrigger.hasErrors_check_iff (w : Workflow) :
    (check w).hasErrors = false ↔ DeclaresDispatch (w.get "on") := by
  have hfind := Dispatch.find_eq_missing_iff (w.get "on")
  unfold check
  split
  · next hmissing =>
    simp [hfind.1 hmissing, missing, Findings.hasErrors, Diagnostic.error, Diagnostic.suggest]
  · next trigger hdeclared =>
    have hdeclares : DeclaresDispatch (w.get "on") := by
      by_contra hno
      exact hdeclared (hfind.2 hno)
    simp only [hdeclares, iff_true]
    split
    · rfl
    · exact hasErrors_checkInput _

/-! ## The jobs -/

/-- What a build job has to do in its steps. -/
structure BuildsApp (job : View) : Prop where
  checksOut : job.SomeStep "uses" "actions/checkout"
  setsUpJava : job.SomeStep "uses" "actions/setup-java"
  uploads : job.SomeStep "uses" "actions/upload-artifact"
  assembles : job.SomeStep "run" "assembleDebug"
  /-- By an action with Gradle in its name, in letters of any case, or by the wrapper. -/
  hasGradle : (∃ step ∈ (job.get "steps").items,
      "gradle".toList <:+: (Text.lowerLetters (step.get "uses").text).toList) ∨
    job.SomeStep "run" "gradlew"

/-- What a smoke job has to wait for and to do in its steps. -/
structure RunsApp (p : Policy) (job : View) : Prop where
  waits : job.get "needs" = .string "build" ∨ .string "build" ∈ (job.get "needs").items
  downloads : job.SomeStep "uses" "actions/download-artifact"
  installs : job.SomeStep "run" "adb install"
  launches : job.SomeStep "run" "adb shell am start"
  /-- The scripts of all steps, with a space between neighbours, hold the package. -/
  hasPackage : p.expectedPackage.toList <:+: (String.intercalate " "
    ((job.get "steps").items.map fun step => (step.get "run").text)).toList

namespace BuildJob

theorem usesGradle_iff (j : Job) :
    usesGradle j = true ↔ ∃ step ∈ (j.view.get "steps").items,
      "gradle".toList <:+: (Text.lowerLetters (step.get "uses").text).toList := by
  simp [usesGradle, Job.steps, Step.uses, Text.contains_iff_isInfix]

theorem hasErrors_checkVersions (p : Policy) (j : Job) :
    Findings.hasErrors (j.steps.flatMap (checkVersion p)) = false := by
  rw [Findings.hasErrors_flatMap, List.any_eq_false]
  intro s _
  rw [checkVersion, Findings.hasErrors_when]
  simp [Diagnostic.warning]

theorem hasErrors_checkJob_iff (p : Policy) (j : Job) :
    (checkJob p j).hasErrors = false ↔ BuildsApp j.view := by
  have hfacts : (checkJob p j).hasErrors = false ↔
      j.usesAction "actions/checkout" = true ∧ j.usesAction setupJava = true ∧
        (usesGradle j = true ∨ j.runsCommand "gradlew" = true) ∧
        j.runsCommand "assembleDebug" = true ∧ j.usesAction "actions/upload-artifact" = true := by
    -- the findings about the runner and the versions are warnings and drop out
    simp only [checkJob, checkRunner, Findings.hasErrors_append, Findings.hasErrors_when,
      hasErrors_checkVersions, error, Diagnostic.error, Diagnostic.warning]
    simp [and_assoc, or_iff_not_imp_left]
  rw [hfacts]
  simp only [Job.usesAction_iff, Job.runsCommand_iff, usesGradle_iff]
  constructor
  · rintro ⟨hcheckout, hjava, hgradle, hassemble, hupload⟩
    exact ⟨hcheckout, hjava, hupload, hassemble, hgradle⟩
  · intro h
    exact ⟨h.checksOut, h.setsUpJava, h.hasGradle, h.assembles, h.uploads⟩

theorem hasErrors_check_iff (w : Workflow) (p : Policy) :
    (check w p).hasErrors = false ↔
      w.jobs.HasKey "build" ∧ BuildsApp (w.jobs.get "build") := by
  rcases w.job?_cases "build" with ⟨hjob, hno⟩ | ⟨hjob, hkey⟩
  · simp [check, job, hjob, hno, Findings.hasErrors, error, Diagnostic.error]
  · simp only [check, job, hjob, hkey, true_and]
    exact hasErrors_checkJob_iff p _

end BuildJob

namespace SmokeJob

theorem isWord_build : View.IsWord "build" where
  leads := ⟨'b', by decide, by decide⟩
  not_bool := by decide

theorem needs_contains_build_iff (j : Job) :
    j.needs.contains BuildJob.job = true ↔
      j.view.get "needs" = .string "build" ∨ .string "build" ∈ (j.view.get "needs").items := by
  rw [List.contains_iff_mem, Job.needs, BuildJob.job]
  exact View.mem_strings_iff isWord_build _

theorem hasErrors_checkJob_iff (p : Policy) (j : Job) :
    (checkJob p j).hasErrors = false ↔ RunsApp p j.view := by
  have hfacts : (checkJob p j).hasErrors = false ↔
      j.needs.contains BuildJob.job = true ∧ j.usesAction "actions/download-artifact" = true ∧
        j.runsCommand "adb install" = true ∧ j.runsCommand "adb shell am start" = true ∧
        Text.contains j.runText p.expectedPackage = true := by
    -- the findings about waiting and crashes are warnings and drop out
    simp only [checkJob, Findings.hasErrors_append, Findings.hasErrors_when, error, independent,
      Diagnostic.error, Diagnostic.warning, Diagnostic.suggest]
    simp [and_assoc]
  rw [hfacts, needs_contains_build_iff, Job.usesAction_iff, Job.runsCommand_iff,
    Job.runsCommand_iff, Text.contains_iff_isInfix, Job.runText_eq]
  constructor
  · rintro ⟨hneeds, hdownload, hinstall, hlaunch, hpackage⟩
    exact ⟨hneeds, hdownload, hinstall, hlaunch, hpackage⟩
  · intro h
    exact ⟨h.waits, h.downloads, h.installs, h.launches, h.hasPackage⟩

theorem hasErrors_check_iff (w : Workflow) (p : Policy) :
    (check w p).hasErrors = false ↔
      w.jobs.HasKey "smoke" ∧ RunsApp p (w.jobs.get "smoke") := by
  rcases w.job?_cases "smoke" with ⟨hjob, hno⟩ | ⟨hjob, hkey⟩
  · simp [check, job, hjob, hno, Findings.hasErrors, error, Diagnostic.error]
  · simp only [check, job, hjob, hkey, true_and]
    exact hasErrors_checkJob_iff p _

end SmokeJob

/-! ## The references -/

theorem RepoReferences.hasErrors_check_iff (w : Workflow) (p : Policy) :
    (rule.check w p).hasErrors = false ↔
      ∀ spans, Reference.Covers p.owner.toList w.source.toList 0 spans →
        ∀ s ∈ spans, s.text w.source = p.expectedRepo := by
  have hnil : (rule.check w p).hasErrors = false ↔ rule.check w p = [] := by
    show Findings.hasErrors (checkSource p w.source) = false ↔ checkSource p w.source = []
    rw [checkSource, Findings.hasErrors_map _ fun _ => rfl]
    simp
  rcases Reference.exists_covers_findAll p.owner w.source with ⟨spans, hspans, _⟩
  rw [hnil, check_eq_nil_iff_of_covers hspans]
  constructor
  · intro h others hothers
    rw [hothers.unique hspans]
    exact h
  · intro h
    exact h spans hspans

/-! ## The gate -/

/-- What the root of a workflow and its text must be for no rule to find an error. -/
structure Gate (p : Policy) (source : String) (root : View) : Prop where
  hasName : root.HasKey "name"
  hasTriggers : root.HasKey "on"
  hasJobs : root.HasKey "jobs"
  dispatch : DeclaresDispatch (root.get "on")
  hasBuild : (root.get "jobs").HasKey "build"
  hasSmoke : (root.get "jobs").HasKey "smoke"
  build : BuildsApp ((root.get "jobs").get "build")
  smoke : RunsApp p ((root.get "jobs").get "smoke")
  references : ∀ spans, Reference.Covers p.owner.toList source.toList 0 spans →
    ∀ s ∈ spans, s.text source = p.expectedRepo

theorem Registry.hasErrors_run_builtins_iff (w : Workflow) (p : Policy) :
    (run builtins w p).hasErrors = false ↔ Gate p w.source w.root := by
  have hrules : (run builtins w p).hasErrors = false ↔
      (RequiredKeys.check w).hasErrors = false ∧ (DispatchTrigger.check w).hasErrors = false ∧
        (PermissionsDeclared.check w).hasErrors = false ∧
        (JobsDefined.check w).hasErrors = false ∧ (BuildJob.check w p).hasErrors = false ∧
        (SmokeJob.check w p).hasErrors = false ∧
        (RepoReferences.rule.check w p).hasErrors = false := by
    rw [run, Findings.hasErrors_flatMap, List.any_eq_false]
    simp only [builtins, List.forall_mem_cons, Bool.not_eq_true, List.not_mem_nil,
      false_implies, implies_true, and_true]
    rfl
  rw [hrules, RequiredKeys.hasErrors_check_iff, DispatchTrigger.hasErrors_check_iff,
    JobsDefined.hasErrors_check_iff, BuildJob.hasErrors_check_iff, SmokeJob.hasErrors_check_iff,
    RepoReferences.hasErrors_check_iff]
  constructor
  · rintro ⟨⟨hname, htriggers, hjobs⟩, hdispatch, _, _, ⟨hbuild, hbuilds⟩, ⟨hsmoke, hruns⟩, hrefs⟩
    exact ⟨hname, htriggers, hjobs, hdispatch, hbuild, hsmoke, hbuilds, hruns, hrefs⟩
  · intro h
    -- a mapping with the two jobs is not empty, so this rule asks for nothing more
    have hfilled : w.jobs.isFilledMapping = true := h.hasBuild.isFilledMapping
    exact ⟨⟨h.hasName, h.hasTriggers, h.hasJobs⟩, h.dispatch,
      PermissionsDeclared.hasErrors_check w, hfilled, ⟨h.hasBuild, h.build⟩,
      ⟨h.hasSmoke, h.smoke⟩, h.references⟩

/-- A text is a workflow if it is not blank, can be read, and holds a mapping without a tag. -/
theorem Workflow.parse_eq_ok_iff {source : String} {w : Workflow} :
    parse source = .ok w ↔ Text.isBlankText source = false ∧
      ∃ entries, Value.parse source = .ok (.mapping entries) ∧
        w = ⟨Entries.normalizeTrigger entries, Entries.hasTrueKey entries, source⟩ := by
  unfold parse
  split
  · next hblank =>
    simp [hblank]
  · next hblank =>
    simp only [hblank, true_and]
    split
    · next cause hcause =>
      simp [hcause]
    · next v hv =>
      cases v <;> simp [hv, ofValue, eq_comm]

/-- A text passes, with warnings allowed, just if it is not blank, can be read and holds a mapping
without a tag, whose root, with the key of the triggers in its one spelling, is let through by the
gate together with the text. -/
theorem passed_validate_iff (source : String) (p : Policy) :
    (validate source p).passed false = true ↔
      Text.isBlankText source = false ∧
        ∃ entries, Value.parse source = .ok (.mapping entries) ∧
          Gate p source (.mapping (Entries.normalizeTrigger entries)) := by
  rw [Findings.passed_false]
  cases hparse : Workflow.parse source with
  | error cause =>
      -- a text that is refused has one finding, which is an error
      have hno : ∀ w, Workflow.parse source ≠ .ok w := by
        simp [hparse]
      rw [validate, validateWith_of_error hparse]
      constructor
      · intro h
        simp [Findings.hasErrors, Diagnostic.error] at h
      · rintro ⟨hblank, entries, hvalue, _⟩
        exact absurd (Workflow.parse_eq_ok_iff.2 ⟨hblank, entries, hvalue, rfl⟩) (hno _)
  | ok w =>
      rcases Workflow.parse_eq_ok_iff.1 hparse with ⟨hblank, entries, hvalue, rfl⟩
      rw [validate, validateWith_of_ok hparse, Registry.hasErrors_run_builtins_iff]
      constructor
      · intro h
        exact ⟨hblank, entries, hvalue, h⟩
      · rintro ⟨_, entries', hvalue', h⟩
        -- reading has one result, so both mappings are the same
        rw [hvalue] at hvalue'
        cases hvalue'
        exact h

end WorkflowLint
