import WorkflowLint.Proofs.Advice
import WorkflowLint.Proofs.Joined

/-!
# Steps — inserting steps into a job

Steps of any shape are inserted into a job, and nothing else of the workflow changes
(`Workflow.StepsInserted`). What some step uses or runs is still used or run, so no error is new. Of
the warnings about the build job, the one on the runner stays, and those on versions of the JDK can
only become more. About the smoke job nothing new is found
(`Workflow.findings_sublist_of_stepsInserted`).

The package is looked for in the scripts joined by spaces. A package with a space may straddle two
scripts, and is lost if a step comes between them. So such a package asks for the old steps to stay
neighbours; any other occurs in one script, and the new steps may be anywhere.
-/

namespace WorkflowLint

open Diagnostic (when)
open Yaml (Value)

/-! ## Changing a value inside a document -/

/-- Changes the value under a string key, if the key is there. -/
def Entries.adjust (key : String) (change : Value → Value) : Entries → Entries
  | [] => []
  | (k, v) :: rest =>
    if isStringKey key k then (k, change v) :: rest else (k, v) :: adjust key change rest

/-- Changes the value under a key of a mapping, tagged or not. -/
def Yaml.Value.adjust (key : String) (change : Value → Value) : Value → Value
  | .mapping entries => .mapping (Entries.adjust key change entries)
  | .tagged tag v => .tagged tag (adjust key change v)
  | v => v

/-- Replaces the items of a sequence, tagged or not. -/
def Yaml.Value.withItems (items : List Value) : Value → Value
  | .sequence _ => .sequence items
  | .tagged tag v => .tagged tag (withItems items v)
  | v => v

/-- The entries of a workflow, where the steps of a job are replaced. -/
def Entries.withSteps (name : String) (items : List Value) (m : Entries) : Entries :=
  m.adjust "jobs" (Value.adjust name (Value.adjust "steps" (Value.withItems items)))

namespace View

variable {key : String} {change : Value → Value}

theorem lookup_adjust_self (key : String) (change : Value → Value) (m : Entries) :
    lookup key (m.adjust key change) = (lookup key m).map change := by
  induction m with
  | nil =>
      rfl
  | cons e m ih =>
      rcases e with ⟨k, v⟩
      cases k with
      | string s =>
          by_cases hs : s = key
          · simp [Entries.adjust, Entries.isStringKey, lookup, hs]
          · simp [Entries.adjust, Entries.isStringKey, lookup, hs, ih]
      | _ =>
          simp [Entries.adjust, Entries.isStringKey, lookup, ih]

theorem lookup_adjust_of_ne {other : String} (hne : other ≠ key) (m : Entries) :
    lookup other (m.adjust key change) = lookup other m := by
  induction m with
  | nil =>
      rfl
  | cons e m ih =>
      rcases e with ⟨k, v⟩
      cases k with
      | string s =>
          by_cases hs : s = key
          · simp [Entries.adjust, Entries.isStringKey, lookup, hs, hne.symm]
          · simp [Entries.adjust, Entries.isStringKey, lookup, hs, ih]
      | _ =>
          simp [Entries.adjust, Entries.isStringKey, lookup, ih]

/-- What is seen after the value under a key has changed. -/
def adjust (key : String) (change : Value → Value) : View → View
  | .mapping entries => .mapping (Entries.adjust key change entries)
  | v => v

def withItems (items : List Value) : View → View
  | .sequence _ => .sequence items
  | v => v

theorem ofValue_adjust (v : Value) :
    ofValue (v.adjust key change) = (ofValue v).adjust key change := by
  cases v with
  | tagged tag v =>
      simpa only [Value.adjust, ofValue] using ofValue_adjust v
  | _ =>
      simp only [Value.adjust, ofValue, adjust]

theorem ofValue_withItems (items : List Value) (v : Value) :
    ofValue (v.withItems items) = (ofValue v).withItems items := by
  cases v with
  | tagged tag v =>
      simpa only [Value.withItems, ofValue] using ofValue_withItems items v
  | _ =>
      simp only [Value.withItems, ofValue, withItems]

/-- Under the key of the change, the changed value is seen. A change of values that shows as a
change of views leaves what is absent absent. -/
theorem get_adjust_self {shown : View → View} (hshown : ∀ v, ofValue (change v) = shown (ofValue v))
    (habsent : shown .absent = .absent) (v : View) :
    (v.adjust key change).get key = shown (v.get key) := by
  cases v with
  | mapping entries =>
      rw [adjust, get, get, lookup_adjust_self]
      cases lookup key entries with
      | none =>
          exact habsent.symm
      | some value =>
          exact hshown value
  | _ =>
      exact habsent.symm

theorem get_adjust_of_ne {other : String} (hne : other ≠ key) (v : View) :
    (v.adjust key change).get other = v.get other := by
  cases v with
  | mapping entries =>
      rw [adjust, get, get, lookup_adjust_of_ne hne]
  | _ =>
      rfl

end View

/-! ## Jobs with more steps -/

namespace Job

/-- The second job has more steps, and is the same under any other key. -/
structure StepsInserted (items items' : List Value) (j j' : Job) : Prop where
  before : j.view.get "steps" = .sequence items
  after : j'.view.get "steps" = .sequence items'
  others : ∀ key ≠ "steps", j'.view.get key = j.view.get key
  inserted : items.Sublist items'

theorem steps_eq {items : List Value} {j : Job} (h : j.view.get "steps" = .sequence items) :
    j.steps = items.map fun v => ⟨View.ofValue v⟩ := by
  rw [steps, h, View.items, List.map_map]
  rfl

namespace StepsInserted

variable {items items' : List Value} {j j' : Job}

theorem steps_sublist (h : StepsInserted items items' j j') : j.steps.Sublist j'.steps := by
  rw [steps_eq h.before, steps_eq h.after]
  exact h.inserted.map _

theorem any_steps (h : StepsInserted items items' j j') {test : Step → Bool}
    (hj : j.steps.any test = true) : j'.steps.any test = true := by
  rw [List.any_eq_true] at hj ⊢
  rcases hj with ⟨s, hs, htest⟩
  exact ⟨s, h.steps_sublist.subset hs, htest⟩

/-- If new steps come before and after the old ones only, or the part has no space, then what
occurs in the scripts still does. -/
theorem contains_runText (h : StepsInserted items items' j j') {part : String}
    (hpart : items <:+: items' ∨ ' ' ∉ part.toList)
    (hj : Text.contains j.runText part = true) : Text.contains j'.runText part = true := by
  rcases hpart with ⟨before, after, rfl⟩ | hspace
  · have hmap := steps_eq h.after
    rw [List.map_append, List.map_append, ← steps_eq h.before] at hmap
    rw [Text.contains_iff_isInfix, toList_runText] at hj ⊢
    rw [hmap, List.map_append, List.map_append]
    exact hj.trans (Text.intercalate_infix_append _ _ _ _)
  · -- without a space, the part is empty or occurs in one script
    rw [contains_runText_iff _ hspace] at hj ⊢
    exact hj.imp_right h.any_steps

end StepsInserted

end Job

/-! ## Findings about jobs with more steps -/

/-- What is reported if something is missing is not reported anew if less is missing. -/
theorem Diagnostic.when_not_sublist {c c' : Bool} (h : c = true → c' = true) (d : Diagnostic) :
    (when (!c') d).Sublist (when (!c) d) := by
  cases c with
  | false =>
      cases c' with
      | false => exact List.Sublist.refl _
      | true => exact List.nil_sublist _
  | true =>
      rw [h rfl]

namespace Findings

/-- The findings whose messages begin with a text. -/
def about (lead : String) (f : Findings) : Findings :=
  f.filter fun d => lead.toList.isPrefixOf d.message.toList

variable {f g : Findings} {lead rest : String}

theorem errors_append : errors (f ++ g) = f.errors ++ g.errors :=
  List.filter_append ..

theorem errors_eq_nil (h : ∀ d ∈ f, d.severity = .warning) : f.errors = [] := by
  rw [errors, ofSeverity, List.filter_eq_nil_iff]
  intro d hd
  rw [h d hd]
  decide

theorem errors_eq_self (h : ∀ d ∈ f, d.severity = .error) : f.errors = f := by
  rw [errors, ofSeverity, List.filter_eq_self]
  intro d hd
  rw [h d hd]
  decide

theorem about_append : about lead (f ++ g) = f.about lead ++ g.about lead :=
  List.filter_append ..

theorem about_eq_self (h : ∀ d ∈ f, lead.toList <+: d.message.toList) : f.about lead = f := by
  rw [about, List.filter_eq_self]
  intro d hd
  exact List.isPrefixOf_iff_prefix.2 (h d hd)

theorem about_eq_nil (h : ∀ d ∈ f, ¬ lead.toList <+: d.message.toList) : f.about lead = [] := by
  rw [about, List.filter_eq_nil_iff]
  intro d hd hlead
  exact h d hd (List.isPrefixOf_iff_prefix.1 hlead)

theorem mem_when_iff {condition : Bool} {d e : Diagnostic} :
    e ∈ when condition d ↔ condition = true ∧ e = d := by
  cases condition <;> simp [when]

end Findings

namespace BuildJob

open Findings

variable {items items' : List Value} {j j' : Job} {p : Policy}

/-- The errors about a build job are about what no step uses or runs. -/
theorem errors_checkJob (p : Policy) (j : Job) :
    (checkJob p j).errors =
      when (!j.usesAction "actions/checkout") (error "Build job missing actions/checkout step") ++
      when (!j.usesAction setupJava) (error "Build job missing actions/setup-java step") ++
      when (!(usesGradle j || j.runsCommand "gradlew"))
        (error "Build job missing Gradle setup or gradlew invocation") ++
      when (!j.runsCommand "assembleDebug") (error "Build job doesn't run assembleDebug") ++
      when (!j.usesAction "actions/upload-artifact")
        (error "Build job missing artifact upload step") := by
  have hrunner : (checkRunner p j).errors = [] := by
    apply errors_eq_nil
    intro d hd
    rw [(mem_when_iff.1 hd).2]
    rfl
  have hversions : errors (j.steps.flatMap (checkVersion p)) = [] := by
    apply errors_eq_nil
    intro d hd
    rcases List.mem_flatMap.1 hd with ⟨s, _, hd⟩
    rw [(mem_when_iff.1 hd).2]
    rfl
  have herror : ∀ condition message,
      errors (when condition (error message)) = when condition (error message) := by
    intro condition message
    apply errors_eq_self
    intro d hd
    rw [(mem_when_iff.1 hd).2]
    rfl
  simp only [checkJob, errors_append, hrunner, hversions, herror, List.nil_append, List.append_nil,
    Bool.not_or]

theorem errors_sublist (h : Job.StepsInserted items items' j j') :
    (checkJob p j').errors.Sublist (checkJob p j).errors := by
  have hgradle : (usesGradle j || j.runsCommand "gradlew") = true →
      (usesGradle j' || j'.runsCommand "gradlew") = true := by
    rw [Bool.or_eq_true, Bool.or_eq_true]
    exact Or.imp h.any_steps h.any_steps
  rw [errors_checkJob, errors_checkJob]
  refine List.Sublist.append (List.Sublist.append (List.Sublist.append (List.Sublist.append ?_ ?_)
    ?_) ?_) ?_
  · exact Diagnostic.when_not_sublist h.any_steps _
  · exact Diagnostic.when_not_sublist h.any_steps _
  · exact Diagnostic.when_not_sublist hgradle _
  · exact Diagnostic.when_not_sublist h.any_steps _
  · exact Diagnostic.when_not_sublist h.any_steps _

/-! ### Warnings about the build job -/

/-- How the warning on the runner begins. -/
def runnerLead : String :=
  "Build job runs-on '"

/-- How a warning on the version of a JDK begins. -/
def jdkLead : String :=
  "Unusual JDK version: "

theorem lead_of_mem_runner {job : View} {d : Diagnostic} (hd : d ∈ Advice.runner p job) :
    runnerLead.toList <+: d.message.toList := by
  rw [Advice.runner] at hd
  split at hd
  · rw [List.mem_singleton.1 hd, Advice.advise, String.append_assoc, String.append_assoc,
      String.append_assoc, String.toList_append]
    exact List.prefix_append _ _
  · cases hd

theorem lead_of_mem_jdks {job : View} {d : Diagnostic} (hd : d ∈ Advice.jdks p job) :
    jdkLead.toList <+: d.message.toList := by
  rcases List.mem_map.1 hd with ⟨step, _, rfl⟩
  rw [Advice.advise, String.toList_append]
  exact List.prefix_append _ _

/-- The two kinds of warnings begin with different letters. -/
theorem not_prefix_of_leads {message : List Char} (hrunner : runnerLead.toList <+: message) :
    ¬ jdkLead.toList <+: message := by
  intro hjdk
  have hor := List.prefix_or_prefix_of_prefix hrunner hjdk
  revert hor
  decide

theorem about_warnings_check {w : Workflow} (hkey : w.jobs.HasKey "build") :
    (check w p).warnings.about runnerLead = Advice.runner p (w.jobs.get "build") ∧
      (check w p).warnings.about jdkLead = Advice.jdks p (w.jobs.get "build") := by
  have hrunner : ∀ d ∈ Advice.runner p (w.jobs.get "build"),
      runnerLead.toList <+: d.message.toList := fun _ => lead_of_mem_runner
  have hjdks : ∀ d ∈ Advice.jdks p (w.jobs.get "build"),
      jdkLead.toList <+: d.message.toList := fun _ => lead_of_mem_jdks
  rw [warnings_check, Advice.build, if_pos hkey, about_append, about_append]
  constructor
  · rw [about_eq_self hrunner, about_eq_nil, List.append_nil]
    intro d hd hlead
    exact not_prefix_of_leads hlead (hjdks d hd)
  · rw [about_eq_self hjdks, about_eq_nil, List.nil_append]
    intro d hd
    exact not_prefix_of_leads (hrunner d hd)

theorem jdks_sublist (h : Job.StepsInserted items items' j j') :
    (Advice.jdks p j.view).Sublist (Advice.jdks p j'.view) := by
  rw [Advice.jdks, Advice.jdks, h.before, h.after]
  exact ((h.inserted.map View.ofValue).filter _).map _

theorem runner_eq (h : Job.StepsInserted items items' j j') :
    Advice.runner p j'.view = Advice.runner p j.view := by
  have hview : j'.view.get "runs-on" = j.view.get "runs-on" := h.others "runs-on" (by decide)
  have hunusual : UnusualRunner p j'.view ↔ UnusualRunner p j.view := by
    rw [UnusualRunner, UnusualRunner, hview]
  simp only [Advice.runner, hunusual, hview]

end BuildJob

namespace SmokeJob

variable {items items' : List Value} {j j' : Job} {p : Policy}

theorem checkJob_sublist (h : Job.StepsInserted items items' j j')
    (hpackage : items <:+: items' ∨ ' ' ∉ p.expectedPackage.toList) :
    (checkJob p j').Sublist (checkJob p j) := by
  have hneeds : j'.needs = j.needs := by
    rw [Job.needs, Job.needs, h.others "needs" (by decide)]
  rw [checkJob, checkJob, hneeds]
  refine List.Sublist.append (List.Sublist.append (List.Sublist.append (List.Sublist.append
    (List.Sublist.append (List.Sublist.append (List.Sublist.refl _) ?_) ?_) ?_) ?_) ?_) ?_
  · exact Diagnostic.when_not_sublist h.any_steps _
  · exact Diagnostic.when_not_sublist h.any_steps _
  · exact Diagnostic.when_not_sublist h.any_steps _
  · exact Diagnostic.when_not_sublist h.any_steps _
  · exact Diagnostic.when_not_sublist h.any_steps _
  · exact Diagnostic.when_not_sublist (h.contains_runText hpackage) _

end SmokeJob

/-! ## Workflows -/

namespace Workflow

/-- Steps are inserted into the job with a name, and nothing else of the document is changed. -/
structure StepsInserted (name : String) (items items' : List Value) (w w' : Workflow) : Prop where
  steps : (w.jobs.get name).get "steps" = .sequence items
  inserted : items.Sublist items'
  changed : w'.entries = w.entries.withSteps name items'

namespace StepsInserted

variable {name : String} {items items' : List Value} {w w' : Workflow}

theorem jobs_get (h : StepsInserted name items items' w w') :
    w'.jobs.get name = (w.jobs.get name).adjust "steps" (Value.withItems items') := by
  have hjobs : w'.jobs =
      w.jobs.adjust name (Value.adjust "steps" (Value.withItems items')) := by
    rw [jobs, jobs, Workflow.get, Workflow.get, root, root, h.changed]
    exact View.get_adjust_self View.ofValue_adjust rfl (.mapping w.entries)
  rw [hjobs]
  exact View.get_adjust_self View.ofValue_adjust rfl w.jobs

theorem job (h : StepsInserted name items items' w w') :
    Job.StepsInserted items items' ⟨w.jobs.get name⟩ ⟨w'.jobs.get name⟩ where
  before := h.steps
  after := by
    rw [h.jobs_get, View.get_adjust_self (View.ofValue_withItems items') rfl, h.steps]
    rfl
  others := by
    intro key hkey
    rw [h.jobs_get]
    exact View.get_adjust_of_ne hkey _
  inserted := h.inserted

theorem hasKey_of_steps {w : Workflow} (h : (w.jobs.get name).get "steps" = .sequence items) :
    w.jobs.HasKey name := by
  apply View.hasKey_of_get_ne_absent
  rw [h]
  intro hnone
  cases hnone

theorem job?_eq_some {w : Workflow} (h : (w.jobs.get name).get "steps" = .sequence items) :
    w.job? name = some ⟨w.jobs.get name⟩ := by
  rcases w.job?_cases name with ⟨_, hno⟩ | ⟨hjob, _⟩
  · exact absurd (hasKey_of_steps h) hno
  · exact hjob

end StepsInserted

/-- Inserting steps anywhere into the build job adds no error, leaves the warning on the runner, and
keeps the warnings on versions of the JDK, to which it may add more. Inserting steps into the smoke
job adds nothing, as long as they come before and after the old ones, or the expected package has
no space. -/
theorem findings_sublist_of_stepsInserted (p : Policy) {items items' : List Value}
    {w w' : Workflow} :
    (StepsInserted "build" items items' w w' →
      (BuildJob.check w' p).errors.Sublist (BuildJob.check w p).errors ∧
      (BuildJob.check w' p).warnings.about BuildJob.runnerLead =
        (BuildJob.check w p).warnings.about BuildJob.runnerLead ∧
      ((BuildJob.check w p).warnings.about BuildJob.jdkLead).Sublist
        ((BuildJob.check w' p).warnings.about BuildJob.jdkLead)) ∧
    (StepsInserted "smoke" items items' w w' →
      items <:+: items' ∨ ' ' ∉ p.expectedPackage.toList →
      (SmokeJob.check w' p).Sublist (SmokeJob.check w p)) := by
  constructor
  · intro h
    have hjob : w.job? BuildJob.job = some _ := StepsInserted.job?_eq_some h.steps
    have hjob' : w'.job? BuildJob.job = some _ := StepsInserted.job?_eq_some h.job.after
    have hwarnings := BuildJob.about_warnings_check (p := p)
      (StepsInserted.hasKey_of_steps h.steps)
    have hwarnings' := BuildJob.about_warnings_check (p := p)
      (StepsInserted.hasKey_of_steps h.job.after)
    refine ⟨?_, ?_, ?_⟩
    · rw [BuildJob.check, BuildJob.check, hjob, hjob']
      exact BuildJob.errors_sublist h.job
    · rw [hwarnings.1, hwarnings'.1]
      exact BuildJob.runner_eq h.job
    · rw [hwarnings.2, hwarnings'.2]
      exact BuildJob.jdks_sublist h.job
  · intro h hpackage
    have hjob : w.job? SmokeJob.job = some _ := StepsInserted.job?_eq_some h.steps
    have hjob' : w'.job? SmokeJob.job = some _ := StepsInserted.job?_eq_some h.job.after
    rw [SmokeJob.check, SmokeJob.check, hjob, hjob']
    exact SmokeJob.checkJob_sublist h.job hpackage

/-! ### A workflow with more steps -/

def stepWith (script : String) : Value :=
  .mapping [(.string "run", .string script)]

/-- A step that sets up a JDK. -/
def jdkStep (version : String) : Value :=
  .mapping [(.string "uses", .string "actions/setup-java@v4"),
    (.string "with", .mapping [(.string "java-version", .string version)])]

/-- A workflow with the steps of its two jobs. -/
def ofSteps (build smoke : List Value) : Workflow :=
  ⟨[(.string "jobs", .mapping
      [(.string "build", .mapping [(.string "steps", .sequence build)]),
        (.string "smoke", .tagged "job" (.mapping [(.string "steps", .sequence smoke)]))])],
    false, ""⟩

def buildSteps : List Value :=
  [jdkStep "8", stepWith "./gradlew"]

def moreBuildSteps : List Value :=
  [jdkStep "8", .null, jdkStep "9", stepWith "./gradlew", stepWith "assembleDebug"]

def smokeSteps : List Value :=
  [stepWith "adb install", stepWith "echo"]

def moreSmokeSteps : List Value :=
  [stepWith "adb install", .bool true, stepWith "echo"]

theorem findings_sublist_of_stepsInserted_ofSteps :
    StepsInserted "build" buildSteps moreBuildSteps (ofSteps buildSteps smokeSteps)
      (ofSteps moreBuildSteps smokeSteps) ∧
    (BuildJob.check (ofSteps moreBuildSteps smokeSteps) .standard).errors.Sublist
      (BuildJob.check (ofSteps buildSteps smokeSteps) .standard).errors ∧
    StepsInserted "smoke" smokeSteps moreSmokeSteps (ofSteps buildSteps smokeSteps)
      (ofSteps buildSteps moreSmokeSteps) ∧
    (SmokeJob.check (ofSteps buildSteps moreSmokeSteps) .standard).Sublist
      (SmokeJob.check (ofSteps buildSteps smokeSteps) .standard) := by
  have hbuild : StepsInserted "build" buildSteps moreBuildSteps (ofSteps buildSteps smokeSteps)
      (ofSteps moreBuildSteps smokeSteps) :=
    ⟨rfl, by decide, rfl⟩
  have hsmoke : StepsInserted "smoke" smokeSteps moreSmokeSteps (ofSteps buildSteps smokeSteps)
      (ofSteps buildSteps moreSmokeSteps) :=
    ⟨rfl, by decide, rfl⟩
  have hspace : ' ' ∉ Policy.standard.expectedPackage.toList := by
    decide
  exact ⟨hbuild, ((findings_sublist_of_stepsInserted .standard).1 hbuild).1, hsmoke,
    (findings_sublist_of_stepsInserted .standard).2 hsmoke (.inr hspace)⟩

/-- A step between two others splits a package that straddles their scripts. -/
example :
    Text.contains (Job.runText ⟨.mapping [(.string "steps", .sequence
        [stepWith "start my", stepWith "app"])]⟩) "my app" = true ∧
      Text.contains (Job.runText ⟨.mapping [(.string "steps", .sequence
        [stepWith "start my", stepWith "wait", stepWith "app"])]⟩) "my app" = false := by
  decide

end Workflow

end WorkflowLint
