import WorkflowLint.Workflow.Job

/-!
# Access — keys, items and steps of views

What the accessors of views and jobs find, said of the entries and items themselves. A key counts
as there whatever its value is, null included (`View.contains_iff`).
-/

namespace WorkflowLint

open Yaml (Value)

namespace View

variable {v : View} {key : String}

/-- A mapping with a string among its keys. -/
def HasKey (v : View) (key : String) : Prop :=
  ∃ entries value, v = .mapping entries ∧ (.string key, value) ∈ entries

theorem ofValue_ne_absent (v : Value) : ofValue v ≠ .absent := by
  cases v with
  | tagged _ v =>
      simpa only [ofValue] using ofValue_ne_absent v
  | _ =>
      simp only [ofValue, ne_eq, reduceCtorEq, not_false_eq_true]

theorem lookup_isSome_iff (key : String) (entries : List (Value × Value)) :
    (lookup key entries).isSome = true ↔ ∃ value, (Value.string key, value) ∈ entries := by
  induction entries with
  | nil =>
      simp [lookup]
  | cons e entries ih =>
      rcases e with ⟨k, value⟩
      cases k with
      | string k =>
          by_cases hk : k = key
          · simp [lookup, hk]
          · simp [lookup, hk, ih, Ne.symm hk]
      | _ =>
          simp [lookup, ih]

theorem get_eq_absent_iff (v : View) (key : String) : v.get key = .absent ↔ ¬ v.HasKey key := by
  cases v with
  | mapping entries =>
      have hsome := lookup_isSome_iff key entries
      cases hlookup : lookup key entries with
      | none =>
          rw [hlookup] at hsome
          simp only [Option.isSome_none, Bool.false_eq_true, false_iff, not_exists] at hsome
          simp [get, hlookup, HasKey, hsome]
      | some value =>
          rw [hlookup] at hsome
          simpa [get, hlookup, HasKey, ofValue_ne_absent] using hsome
  | _ =>
      simp [get, HasKey]

/-- Under a missing key there is nothing to be found. -/
theorem hasKey_of_get_ne_absent {other : String} (h : (v.get key).get other ≠ .absent) :
    v.HasKey key := by
  refine Classical.byContradiction ?_
  intro hno
  rw [(get_eq_absent_iff v key).2 hno] at h
  exact h rfl

theorem isAbsent_iff : v.isAbsent = true ↔ v = .absent := by
  cases v <;> simp [isAbsent]

/-- A key is contained whatever its value is. -/
theorem contains_iff : v.contains key = true ↔ v.HasKey key := by
  rw [contains, Bool.not_eq_true', ← Bool.not_eq_true, isAbsent_iff, get_eq_absent_iff,
    Classical.not_not]

theorem HasKey.isFilledMapping (h : v.HasKey key) : v.isFilledMapping = true := by
  rcases h with ⟨entries, value, rfl, hmem⟩
  cases entries with
  | nil =>
      simp at hmem
  | cons e entries =>
      rfl

end View

/-! ## Texts in texts -/

theorem Text.contains_iff_isInfix (whole part : String) :
    Text.contains whole part = true ↔ part.toList <:+: whole.toList :=
  Text.occursIn_iff_isInfix part.toList whole.toList

/-! ## Steps -/

/-- In the text under a key of some step of a job, a part occurs. -/
def View.SomeStep (job : View) (key part : String) : Prop :=
  ∃ step ∈ (job.get "steps").items, part.toList <:+: (step.get key).text.toList

namespace Job

theorem usesAction_iff (j : Job) (name : String) :
    j.usesAction name = true ↔ j.view.SomeStep "uses" name := by
  simp [usesAction, steps, Step.uses, View.SomeStep, Text.contains_iff_isInfix]

theorem runsCommand_iff (j : Job) (token : String) :
    j.runsCommand token = true ↔ j.view.SomeStep "run" token := by
  simp [runsCommand, steps, Step.run, View.SomeStep, Text.contains_iff_isInfix]

theorem runText_eq (j : Job) :
    j.runText = String.intercalate " " ((j.view.get "steps").items.map fun step =>
      (step.get "run").text) := by
  rw [runText, steps, List.map_map]
  rfl

end Job

namespace Workflow

/-- A job is found under its name, or there is no key with its name. -/
theorem job?_cases (w : Workflow) (name : String) :
    w.job? name = none ∧ ¬ w.jobs.HasKey name ∨
      w.job? name = some ⟨w.jobs.get name⟩ ∧ w.jobs.HasKey name := by
  have habsent := View.get_eq_absent_iff w.jobs name
  unfold job?
  split
  · next hget =>
    exact .inl ⟨rfl, habsent.1 hget⟩
  · next view hview =>
    refine .inr ⟨rfl, Classical.byContradiction ?_⟩
    intro hno
    exact hview (habsent.2 hno)

end Workflow

end WorkflowLint
