import WorkflowLint.Proofs.Steps

/-!
# Scripts — each script of a job, or all of them joined

Most commands are looked for in the script of each step, the expected package in all scripts joined
by spaces. What one script holds, the joined text holds. A token with a space may straddle two
scripts, and the empty token is found even where there are no steps. Any other token is found in
both ways or in neither (`Job.searches_agree`). So a package without a space is reported just if no
step by itself mentions it, and the steps may come in any order.
-/

namespace WorkflowLint

open Diagnostic (when)
open Yaml (Value)

/-! ## The expected package -/

namespace SmokeJob

/-- The error for a job whose scripts do not mention the expected package. -/
def unreferenced (p : Policy) : Diagnostic :=
  error ("Smoke job doesn't reference expected package '" ++ p.expectedPackage ++ "'")

/-- How this error begins, and no other finding about a smoke job. -/
def unreferencedLead : String :=
  "Smoke job doesn't"

variable {w : Workflow} {p : Policy} {j : Job} {d : Diagnostic}

theorem unreferenced_ne (h : ¬ unreferencedLead.toList <+: d.message.toList) :
    unreferenced p ≠ d := by
  rintro rfl
  apply h
  have hlead : unreferencedLead.toList <+:
      "Smoke job doesn't reference expected package '".toList := by
    decide
  rw [unreferenced, error, Diagnostic.error, String.append_assoc, String.toList_append]
  exact hlead.trans (List.prefix_append _ _)

theorem unreferenced_mem_checkJob_iff (p : Policy) (j : Job) :
    unreferenced p ∈ checkJob p j ↔ Text.contains j.runText p.expectedPackage = false := by
  have hlast : unreferenced p =
      error ("Smoke job doesn't reference expected package '" ++ p.expectedPackage ++ "'") := rfl
  -- the other findings are fixed, and none of their messages begins like this one
  simp (disch := decide +kernel) only [checkJob, List.mem_append, Findings.mem_when_iff,
    unreferenced_ne, ← hlast, and_false, false_or, and_true, Bool.not_eq_true']

theorem unreferenced_mem_check_iff (hjob : w.job? job = some j) :
    unreferenced p ∈ check w p ↔ Text.contains j.runText p.expectedPackage = false := by
  rw [check, hjob]
  exact unreferenced_mem_checkJob_iff p j

end SmokeJob

/-! ## Steps in any order -/

namespace Job

variable {j j' : Job} {token : String}

theorem runsCommand_eq_of_perm (h : j'.steps.Perm j.steps) (token : String) :
    j'.runsCommand token = j.runsCommand token :=
  h.any_eq

/-- The order of the steps does not matter to a token without a space. -/
theorem contains_runText_eq_of_perm (h : j'.steps.Perm j.steps) (hspace : ' ' ∉ token.toList) :
    Text.contains j'.runText token = Text.contains j.runText token := by
  rw [Bool.eq_iff_iff, contains_runText_iff j' hspace, contains_runText_iff j hspace,
    runsCommand_eq_of_perm h]

/-- What some step runs is found in the joined scripts, and a token that is not empty and has no
space is found there just if some step runs it. So a package without a space, unless it is empty, is
accepted just if one step mentions it, and it is accepted or reported alike in whatever order the
steps come. -/
theorem searches_agree (j : Job) :
    (∀ token, j.runsCommand token = true → Text.contains j.runText token = true) ∧
    (∀ token : String, token ≠ "" → ' ' ∉ token.toList →
      (Text.contains j.runText token = true ↔ j.runsCommand token = true)) ∧
    ∀ (w : Workflow) (p : Policy), w.job? "smoke" = some j → ' ' ∉ p.expectedPackage.toList →
      (SmokeJob.unreferenced p ∉ SmokeJob.check w p ↔
        p.expectedPackage = "" ∨ ∃ s ∈ j.steps, Text.contains s.run p.expectedPackage = true) ∧
      ∀ (w' : Workflow) (j' : Job), w'.job? "smoke" = some j' → j'.steps.Perm j.steps →
        (SmokeJob.unreferenced p ∈ SmokeJob.check w' p ↔
          SmokeJob.unreferenced p ∈ SmokeJob.check w p) := by
  refine ⟨?_, ?_, ?_⟩
  · intro token htoken
    exact contains_runText_of_runsCommand htoken
  · intro token hne hspace
    rw [contains_runText_iff j hspace]
    exact or_iff_right hne
  · intro w p hjob hspace
    refine ⟨?_, ?_⟩
    · rw [SmokeJob.unreferenced_mem_check_iff hjob, Bool.not_eq_false,
        contains_runText_iff j hspace, runsCommand, List.any_eq_true]
    · intro w' j' hjob' hsteps
      rw [SmokeJob.unreferenced_mem_check_iff hjob', SmokeJob.unreferenced_mem_check_iff hjob,
        contains_runText_eq_of_perm hsteps hspace]

/-! ### A job with its steps the other way round -/

/-- A job with some steps. -/
def ofSteps (steps : List Value) : Job :=
  ⟨.mapping [(.string "steps", .sequence steps)]⟩

/-- A token with a space may straddle two scripts. -/
example :
    let j := ofSteps [Workflow.stepWith "adb", Workflow.stepWith "install"]
    Text.contains j.runText "adb install" = true ∧ j.runsCommand "adb install" = false := by
  decide

def launchSteps : List Value :=
  [Workflow.stepWith "adb install", .null, Workflow.stepWith "am start ai.musicconverter/.Main"]

theorem searches_agree_launchSteps :
    (ofSteps launchSteps).runsCommand "adb install" = true ∧
    Text.contains (ofSteps launchSteps).runText "adb install" = true ∧
    ' ' ∉ Policy.standard.expectedPackage.toList ∧
    (∃ s ∈ (ofSteps launchSteps).steps,
      Text.contains s.run Policy.standard.expectedPackage = true) ∧
    (ofSteps launchSteps.reverse).steps.Perm (ofSteps launchSteps).steps ∧
    (SmokeJob.unreferenced .standard ∈
        SmokeJob.check (Workflow.ofSteps [] launchSteps.reverse) .standard ↔
      SmokeJob.unreferenced .standard ∈
        SmokeJob.check (Workflow.ofSteps [] launchSteps) .standard) ∧
    SmokeJob.unreferenced .standard ∉
      SmokeJob.check (Workflow.ofSteps [] launchSteps) .standard := by
  have hinstall : (ofSteps launchSteps).runsCommand "adb install" = true := by
    decide
  have hspace : ' ' ∉ Policy.standard.expectedPackage.toList := by
    decide
  have hstep : ∃ s ∈ (ofSteps launchSteps).steps,
      Text.contains s.run Policy.standard.expectedPackage = true := by
    rw [← List.any_eq_true]
    decide
  have hsteps : (ofSteps launchSteps.reverse).steps.Perm (ofSteps launchSteps).steps := by
    rw [steps_eq rfl, steps_eq rfl]
    exact launchSteps.reverse_perm.map _
  have hagree := searches_agree (ofSteps launchSteps)
  have hpackage := hagree.2.2 (Workflow.ofSteps [] launchSteps) .standard rfl hspace
  exact ⟨hinstall, hagree.1 _ hinstall, hspace, hstep, hsteps, hpackage.2 _ _ rfl hsteps,
    hpackage.1.2 (.inr hstep)⟩

end Job

end WorkflowLint
