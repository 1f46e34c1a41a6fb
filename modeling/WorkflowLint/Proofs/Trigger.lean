import Mathlib.Data.List.Perm.Basic
import WorkflowLint.Proofs.Gate
import WorkflowLint.Proofs.Renaming
import WorkflowLint.Proofs.Yaml.Blank

/-!
# Trigger — the spelling of the key of the triggers does not matter

A mapping with the key `on`, and the same mapping with the truth value true in its place
(`Entries.Respelled`), give roots that hold the same entries, though not in the same order: renaming
the key moves it, and with it an entry that has nothing to do with the triggers. The rules do not
notice. All but the one about references see a root only through the views under its keys
(`Workflow.SameSections`), and as long as keys differ, these do not depend on the order. So both
texts have the same findings (`Entries.Respelled.validateWith_eq`).
-/

namespace WorkflowLint

open Yaml (Value)

/-! ## Entries as a finite map -/

namespace View

/-- As long as keys differ, the value under a key is the value of any entry with that key. -/
theorem lookup_eq_some_iff {entries : Entries} (hkeys : (entries.map Prod.fst).Nodup)
    (key : String) (v : Value) :
    lookup key entries = some v ↔ (.string key, v) ∈ entries := by
  induction entries with
  | nil =>
      simp [lookup]
  | cons e entries ih =>
      rcases e with ⟨k, v'⟩
      rw [List.map_cons, List.nodup_cons] at hkeys
      have hrest := ih hkeys.2
      by_cases hk : k = .string key
      · subst hk
        -- no further entry has this key
        have hno : (.string key, v) ∉ entries := by
          intro hmem
          exact hkeys.1 (List.mem_map.2 ⟨_, hmem, rfl⟩)
        simp [lookup, hno, eq_comm]
      · have hskip : lookup key ((k, v') :: entries) = lookup key entries := by
          cases k with
          | string s =>
              have hs : s ≠ key := by
                rintro rfl
                exact hk rfl
              simp [lookup, hs]
          | _ =>
              rfl
        rw [hskip, hrest, List.mem_cons, Prod.mk.injEq]
        simp [Ne.symm hk]

theorem lookup_perm {entries entries' : Entries} (h : entries.Perm entries')
    (hkeys : (entries.map Prod.fst).Nodup) (key : String) :
    lookup key entries = lookup key entries' := by
  have hkeys' : (entries'.map Prod.fst).Nodup := (h.map Prod.fst).nodup_iff.1 hkeys
  apply Option.ext
  intro v
  rw [lookup_eq_some_iff hkeys, lookup_eq_some_iff hkeys', h.mem_iff]

end View

/-! ## Two spellings of one key -/

namespace Entries

/-- Keys differ, none is the truth value true, and the second mapping is the first one with true
in the place of the key of the triggers. -/
structure Respelled (entries entries' : Entries) : Prop where
  distinct : (entries.map Prod.fst).Nodup
  plain : .bool true ∉ entries.map Prod.fst
  parts : ∃ front v back, entries = front ++ (.string triggerKey, v) :: back ∧
    entries' = front ++ (.bool true, v) :: back

namespace Respelled

variable {entries entries' : Entries}

/-- In the one spelling of the key, both mappings hold the same entries. -/
theorem normalizeTrigger_perm (h : Respelled entries entries') :
    (normalizeTrigger entries).Perm (normalizeTrigger entries') := by
  rcases h.parts with ⟨front, v, back, rfl, rfl⟩
  have hplain := (hasTrueKey_eq_false_iff _).2 h.plain
  rw [normalizeTrigger_of_plain hplain]
  rw [hasTrueKey, List.any_append, Bool.or_eq_false_iff] at hplain
  have hmoved := perm_moveLast front (.string triggerKey, v) back
  -- what is left has no key of that name, because keys differ
  have hnew := (List.nodup_cons.1 ((hmoved.map Prod.fst).nodup_iff.1 h.distinct)).1
  have hrenamed : normalizeTrigger (front ++ (.bool true, v) :: back) =
      front ++ moveLast back ++ [(.string triggerKey, v)] := by
    rw [normalizeTrigger_append hplain.1, set_of_not_mem v hnew]
  rw [hrenamed]
  exact hmoved.trans (List.perm_append_singleton _ _).symm

end Respelled

end Entries

/-! ## Rules that see a root through its keys -/

/-- Two workflows have the same views under all keys of their roots. -/
def Workflow.SameSections (w w' : Workflow) : Prop :=
  ∀ key, w.get key = w'.get key

namespace Workflow.SameSections

variable {w w' : Workflow}

theorem of_entries_eq (h : w.entries = w'.entries) : w.SameSections w' := by
  intro key
  rw [get, get, root, root, h]

theorem of_perm (h : w.entries.Perm w'.entries) (hkeys : (w.entries.map Prod.fst).Nodup) :
    w.SameSections w' := by
  intro key
  simp only [Workflow.get, root, View.get, View.lookup_perm h hkeys key]

theorem contains_eq (h : w.SameSections w') (key : String) :
    w.root.contains key = w'.root.contains key := by
  have hget : w.root.get key = w'.root.get key := h key
  rw [View.contains, View.contains, hget]

theorem job?_eq (h : w.SameSections w') (name : String) : w.job? name = w'.job? name := by
  have hjobs : w.jobs = w'.jobs := h "jobs"
  rw [job?, job?, hjobs]

end Workflow.SameSections

/-- The rules that look at the root of a workflow and not at its text. -/
def Registry.treeBased : Registry :=
  [RequiredKeys.rule, DispatchTrigger.rule, PermissionsDeclared.rule, JobsDefined.rule,
    BuildJob.rule, SmokeJob.rule]

namespace Registry

theorem run_builtins (w : Workflow) (p : Policy) :
    builtins.run w p = treeBased.run w p ++ RepoReferences.rule.check w p := by
  have hbuiltins : builtins = treeBased ++ [RepoReferences.rule] := rfl
  rw [run, run, hbuiltins, List.flatMap_append, List.flatMap_singleton]

variable {w w' : Workflow}

theorem check_eq_of_sameSections (h : w.SameSections w') {r : Rule} (hr : r ∈ treeBased)
    (p : Policy) : r.check w p = r.check w' p := by
  simp only [treeBased, List.mem_cons, List.not_mem_nil, or_false] at hr
  rcases hr with rfl | rfl | rfl | rfl | rfl | rfl
  · show RequiredKeys.check w = RequiredKeys.check w'
    simp only [RequiredKeys.check, h.contains_eq]
  · show DispatchTrigger.check w = DispatchTrigger.check w'
    simp only [DispatchTrigger.check, h "on"]
  · show PermissionsDeclared.check w = PermissionsDeclared.check w'
    simp only [PermissionsDeclared.check, h "permissions"]
  · show JobsDefined.check w = JobsDefined.check w'
    simp only [JobsDefined.check, Workflow.jobs, h "jobs"]
  · show BuildJob.check w p = BuildJob.check w' p
    simp only [BuildJob.check, h.job?_eq]
  · show SmokeJob.check w p = SmokeJob.check w' p
    simp only [SmokeJob.check, h.job?_eq]

theorem run_eq_of_sameSections (h : w.SameSections w') {registry : Registry}
    (hrules : ∀ r ∈ registry, r ∈ treeBased) (p : Policy) :
    registry.run w p = registry.run w' p := by
  induction registry with
  | nil =>
      rfl
  | cons r registry ih =>
      rw [List.forall_mem_cons] at hrules
      rw [run, run, List.flatMap_cons, List.flatMap_cons, check_eq_of_sameSections h hrules.1 p]
      exact congrArg _ (ih hrules.2)

/-- The one rule that is left looks at nothing but the references of the text. -/
theorem run_builtins_eq_of_sameSections (h : w.SameSections w') {p : Policy}
    (hrefs : Reference.findAll p.owner w.source = Reference.findAll p.owner w'.source) :
    builtins.run w p = builtins.run w' p := by
  have htree : treeBased.run w p = treeBased.run w' p :=
    run_eq_of_sameSections h (fun _ hr => hr) p
  have hrule : RepoReferences.rule.check w p = RepoReferences.rule.check w' p := by
    show RepoReferences.checkSource p w.source = RepoReferences.checkSource p w'.source
    rw [RepoReferences.checkSource, RepoReferences.checkSource, hrefs]
  calc
    builtins.run w p = treeBased.run w p ++ RepoReferences.rule.check w p := run_builtins w p
    _ = treeBased.run w' p ++ RepoReferences.rule.check w' p := by rw [htree, hrule]
    _ = builtins.run w' p := (run_builtins w' p).symm

end Registry

/-! ## Texts -/

namespace Entries.Respelled

variable {entries entries' : Entries} {source source' : String}

/-- Say that two texts are read as the mappings of the two spellings. Then their roots hold the same
entries, and rules that do not look at the text have the same findings in both, whichever they are
and in whatever order they run. So have all rules together if the texts have the same references. -/
theorem validateWith_eq (h : Respelled entries entries')
    (hvalue : Value.parse source = .ok (.mapping entries))
    (hvalue' : Value.parse source' = .ok (.mapping entries')) (p : Policy) :
    (normalizeTrigger entries).Perm (normalizeTrigger entries') ∧
      (∀ registry : Registry, (∀ r ∈ registry, r ∈ Registry.treeBased) →
        validateWith registry source p = validateWith registry source' p) ∧
      (Reference.findAll p.owner source = Reference.findAll p.owner source' →
        validate source p = validate source' p) := by
  have hperm := h.normalizeTrigger_perm
  have hparse := Workflow.parse_eq_ok_iff.2
    ⟨Value.isBlankText_of_parse_mapping hvalue, entries, hvalue, rfl⟩
  have hparse' := Workflow.parse_eq_ok_iff.2
    ⟨Value.isBlankText_of_parse_mapping hvalue', entries', hvalue', rfl⟩
  -- without the key true, nothing has been renamed, and keys still differ
  have hsame : Workflow.SameSections ⟨normalizeTrigger entries, hasTrueKey entries, source⟩
      ⟨normalizeTrigger entries', hasTrueKey entries', source'⟩ := by
    apply Workflow.SameSections.of_perm hperm
    rw [normalizeTrigger_of_plain ((hasTrueKey_eq_false_iff _).2 h.plain)]
    exact h.distinct
  refine ⟨hperm, ?_, ?_⟩
  · intro registry hrules
    rw [validateWith_of_ok hparse, validateWith_of_ok hparse']
    exact Registry.run_eq_of_sameSections hsame hrules p
  · intro hrefs
    rw [validate, validate, validateWith_of_ok hparse, validateWith_of_ok hparse']
    exact Registry.run_builtins_eq_of_sameSections hsame hrefs

/-! ### A workflow whose triggers come first -/

/-- A workflow that spells the key as a string. -/
def plainSource : String :=
  "on: push\nname: app\njobs: none\n"

/-- The same workflow with the truth value true as the key. -/
def trueSource : String :=
  "true: push\nname: app\njobs: none\n"

/-- The entries behind the triggers. -/
def otherEntries : Entries :=
  [(.string "name", .string "app"), (.string "jobs", .string "none")]

theorem parse_plainSource :
    Value.parse plainSource =
      .ok (.mapping ((.string triggerKey, .string "push") :: otherEntries)) := by
  apply eq_ok_of_toOption
  decide +kernel

theorem parse_trueSource :
    Value.parse trueSource = .ok (.mapping ((.bool true, .string "push") :: otherEntries)) := by
  apply eq_ok_of_toOption
  decide +kernel

theorem respelled_otherEntries :
    Respelled ((.string triggerKey, .string "push") :: otherEntries)
      ((.bool true, .string "push") :: otherEntries) where
  distinct := by decide
  plain := by decide
  parts := ⟨[], .string "push", otherEntries, rfl, rfl⟩

/-- Both spellings have the same findings, though the jobs come before the name in one of the
roots. -/
theorem validateWith_eq_otherEntries :
    Respelled ((.string triggerKey, .string "push") :: otherEntries)
        ((.bool true, .string "push") :: otherEntries) ∧
      normalizeTrigger ((.string triggerKey, .string "push") :: otherEntries) ≠
        normalizeTrigger ((.bool true, .string "push") :: otherEntries) ∧
      Reference.findAll Policy.standard.owner plainSource =
        Reference.findAll Policy.standard.owner trueSource ∧
      validate plainSource Policy.standard = validate trueSource Policy.standard := by
  have hrefs : Reference.findAll Policy.standard.owner plainSource =
      Reference.findAll Policy.standard.owner trueSource := by
    decide +kernel
  have hsame := validateWith_eq respelled_otherEntries parse_plainSource parse_trueSource
    Policy.standard
  exact ⟨respelled_otherEntries, by decide, hrefs, hsame.2.2 hrefs⟩

end Entries.Respelled

end WorkflowLint
