import Mathlib.Data.List.Basic
import WorkflowLint.Proofs.Emission
import WorkflowLint.Proofs.Trigger

/-!
# Influence — what a rule's findings depend on

A rule looks at a part of a workflow and at a part of a policy. `Checker.SeesSame` says, for each
rule, when two workflows and two policies are the same in these parts. Then the rule finds the same
in both runs, whatever else is different (`Checker.check_eq_of_seesSame`), and so a run has the same
findings of that rule (`ofRule_validate_eq`). Comments and layout can only change the findings about
references, and each value of a policy only those of one rule.
-/

namespace WorkflowLint

/-! ## Findings of one rule -/

/-- The findings that carry an identifier, in order. -/
def Findings.ofRule (id : String) (f : Findings) : Findings :=
  f.filter fun d => d.rule == id

namespace Findings

theorem ofRule_append (id : String) (f g : Findings) :
    ofRule id (f ++ g) = f.ofRule id ++ g.ofRule id :=
  List.filter_append ..

theorem ofRule_flatMap {α : Type} (id : String) (find : α → Findings) (items : List α) :
    ofRule id (items.flatMap find) = items.flatMap fun a => (find a).ofRule id :=
  List.filter_flatMap ..

theorem From.ofRule_eq_self {id : String} {f : Findings} (h : From id f) : f.ofRule id = f := by
  rw [ofRule, List.filter_eq_self]
  intro d hd
  rw [h d hd, beq_self_eq_true]

theorem From.ofRule_eq_nil {id other : String} {f : Findings} (h : From other f)
    (hne : other ≠ id) : f.ofRule id = [] := by
  rw [ofRule, List.filter_eq_nil_iff]
  intro d hd
  rw [h d hd, beq_iff_eq]
  exact hne

end Findings

/-! ## What rules see -/

/-- Two policies accept the same versions of the JDK, in whatever order they are listed and however
often. -/
def Policy.SameJdks (p q : Policy) : Prop :=
  ∀ version, version ∈ p.jdkVersions ↔ version ∈ q.jdkVersions

theorem Policy.SameJdks.acceptsJdk_eq {p q : Policy} (h : p.SameJdks q) (version : String) :
    p.acceptsJdk version = q.acceptsJdk version := by
  rw [Bool.eq_iff_iff, acceptsJdk, acceptsJdk, List.contains_iff_mem, List.contains_iff_mem]
  exact h version

/-- Two texts have the same references to the owner of a repository. -/
def SameReferences (p : Policy) (w w' : Workflow) : Prop :=
  w.source = w'.source ∨ Reference.findAll p.owner w.source = Reference.findAll p.owner w'.source

namespace Checker

/-- Two workflows and two policies are the same in what a rule looks at. -/
def SeesSame (w w' : Workflow) (p q : Policy) : Checker → Prop
  | .requiredKeys | .dispatchTrigger | .permissionsDeclared | .jobsDefined =>
    w.entries = w'.entries
  | .buildJob => w.entries = w'.entries ∧ p.runnerFamily = q.runnerFamily ∧ p.SameJdks q
  | .smokeJob => w.entries = w'.entries ∧ p.expectedPackage = q.expectedPackage
  -- the root is not looked at
  | .repoReferences => p.expectedRepo = q.expectedRepo ∧ SameReferences p w w'
  | .standIn _ _ => True

end Checker

theorem BuildJob.check_eq_of_policies {p q : Policy} (hrunner : p.runnerFamily = q.runnerFamily)
    (hjdks : p.SameJdks q) (w : Workflow) : check w p = check w q := by
  have hversion : checkVersion p = checkVersion q := by
    funext s
    rw [checkVersion, checkVersion, hjdks.acceptsJdk_eq]
  have hjob : checkJob p = checkJob q := by
    funext j
    rw [checkJob, checkJob, checkRunner, checkRunner, hrunner, hversion]
  rw [check, check, hjob]

theorem SmokeJob.check_eq_of_policies {p q : Policy}
    (hpackage : p.expectedPackage = q.expectedPackage) (w : Workflow) :
    check w p = check w q := by
  have hjob : checkJob p = checkJob q := by
    funext j
    rw [checkJob, checkJob, hpackage]
  rw [check, check, hjob]

theorem RepoReferences.check_eq_of_policies {w w' : Workflow} {p q : Policy}
    (hrepo : p.expectedRepo = q.expectedRepo) (hrefs : SameReferences p w w') :
    rule.check w p = rule.check w' q := by
  have howner : p.owner = q.owner := by
    rw [Policy.owner, Policy.owner, hrepo]
  have hfound : Reference.findAll p.owner w.source = Reference.findAll p.owner w'.source := by
    rcases hrefs with hsource | hfound
    · rw [hsource]
    · exact hfound
  show checkSource p w.source = checkSource q w'.source
  rw [checkSource, checkSource, hfound, howner, hrepo]

namespace Checker

variable {w w' : Workflow} {p q : Policy}

/-- All rules that are always there, in order. -/
def builtins : List Checker :=
  [.requiredKeys, .dispatchTrigger, .permissionsDeclared, .jobsDefined, .buildJob, .smokeJob,
    .repoReferences]

theorem isBuiltin_of_mem : ∀ c ∈ builtins, c.isBuiltin = true := by
  decide

/-- No two of them have one identifier. -/
theorem nodup_ids : (builtins.map fun c => c.rule.id).Nodup := by
  decide

/-- Among the findings of rules whose identifiers differ, those under the identifier of a rule are
its own. -/
theorem ofRule_flatMap_check {checkers : List Checker}
    (hbuiltin : ∀ c ∈ checkers, c.isBuiltin = true)
    (hids : (checkers.map fun c => c.rule.id).Nodup) {c : Checker} (hc : c ∈ checkers) :
    Findings.ofRule c.rule.id (checkers.flatMap fun c => c.rule.check w p) =
      c.rule.check w p := by
  induction checkers with
  | nil =>
      cases hc
  | cons c' checkers ih =>
      rw [List.forall_mem_cons] at hbuiltin
      rw [List.map_cons, List.nodup_cons] at hids
      rw [List.flatMap_cons, Findings.ofRule_append]
      rcases List.mem_cons.1 hc with rfl | hc
      · have hothers : Findings.ofRule c.rule.id
            (checkers.flatMap fun c => c.rule.check w p) = [] := by
          rw [Findings.ofRule_flatMap, List.flatMap_eq_nil_iff]
          intro other hother
          refine (from_check (hbuiltin.2 other hother) w p).ofRule_eq_nil ?_
          exact fun hid => hids.1 (List.mem_map.2 ⟨other, hother, hid⟩)
        rw [(from_check hbuiltin.1 w p).ofRule_eq_self, hothers, List.append_nil]
      · have hne : c'.rule.id ≠ c.rule.id := fun hid =>
          hids.1 (List.mem_map.2 ⟨c, hc, hid.symm⟩)
        rw [(from_check hbuiltin.1 w p).ofRule_eq_nil hne, List.nil_append]
        exact ih hbuiltin.2 hids.2 hc

/-- A rule sees the same if the parts of its own are the same. -/
theorem SeesSame.of_parts {c : Checker}
    (hroot : c.rule.id ≠ "repo-references" → w.entries = w'.entries)
    (hbuild : c.rule.id = "build-job" → p.runnerFamily = q.runnerFamily ∧ p.SameJdks q)
    (hsmoke : c.rule.id = "smoke-job" → p.expectedPackage = q.expectedPackage)
    (hrepo : c.rule.id = "repo-references" →
      p.expectedRepo = q.expectedRepo ∧ SameReferences p w w') :
    c.SeesSame w w' p q := by
  cases c with
  | requiredKeys => exact hroot (by decide)
  | dispatchTrigger => exact hroot (by decide)
  | permissionsDeclared => exact hroot (by decide)
  | jobsDefined => exact hroot (by decide)
  | buildJob => exact ⟨hroot (by decide), hbuild rfl⟩
  | smokeJob => exact ⟨hroot (by decide), hsmoke rfl⟩
  | repoReferences => exact hrepo rfl
  | standIn id findings => trivial

/-- What a rule finds depends on nothing but what it looks at. -/
theorem check_eq_of_seesSame {c : Checker} (h : c.SeesSame w w' p q) :
    c.rule.check w p = c.rule.check w' q := by
  have hroot : ∀ r ∈ Registry.treeBased, w.entries = w'.entries → r.check w p = r.check w' p :=
    fun r hr hentries =>
      Registry.check_eq_of_sameSections (.of_entries_eq hentries) hr p
  -- the rules about the root alone do not look at the policy
  cases c with
  | requiredKeys =>
      exact hroot RequiredKeys.rule (by simp [Registry.treeBased]) h
  | dispatchTrigger =>
      exact hroot DispatchTrigger.rule (by simp [Registry.treeBased]) h
  | permissionsDeclared =>
      exact hroot PermissionsDeclared.rule (by simp [Registry.treeBased]) h
  | jobsDefined =>
      exact hroot JobsDefined.rule (by simp [Registry.treeBased]) h
  | buildJob =>
      have hsame := hroot BuildJob.rule (by simp [Registry.treeBased]) h.1
      exact hsame.trans (BuildJob.check_eq_of_policies h.2.1 h.2.2 w')
  | smokeJob =>
      have hsame := hroot SmokeJob.rule (by simp [Registry.treeBased]) h.1
      exact hsame.trans (SmokeJob.check_eq_of_policies h.2 w')
  | repoReferences =>
      exact RepoReferences.check_eq_of_policies h.1 h.2
  | standIn id findings =>
      rfl

end Checker

/-! ## Two runs -/

section

variable {s t : String} {w w' : Workflow} {p q : Policy}

theorem validate_eq_flatMap (hs : Workflow.parse s = .ok w) (p : Policy) :
    validate s p = Checker.builtins.flatMap fun c => c.rule.check w p := by
  have hregistry : Registry.builtins = Checker.registry Checker.builtins := rfl
  rw [validate, validateWith_of_ok hs, hregistry, Registry.run, Checker.registry,
    List.flatMap_map]

/-- The findings of a run under the identifier of a rule are what the rule finds. -/
theorem ofRule_validate (hs : Workflow.parse s = .ok w) (p : Policy) {c : Checker}
    (hc : c ∈ Checker.builtins) : (validate s p).ofRule c.rule.id = c.rule.check w p := by
  rw [validate_eq_flatMap hs]
  exact Checker.ofRule_flatMap_check Checker.isBuiltin_of_mem Checker.nodup_ids hc

/-- Two runs have the same findings if all rules see the same. -/
theorem validate_eq_of_seesSame (hs : Workflow.parse s = .ok w) (ht : Workflow.parse t = .ok w')
    (h : ∀ c ∈ Checker.builtins, c.SeesSame w w' p q) : validate s p = validate t q := by
  rw [validate_eq_flatMap hs, validate_eq_flatMap ht]
  exact List.flatMap_congr fun c hc => Checker.check_eq_of_seesSame (h c hc)

/-- Two runs have the same findings under an identifier if the rule that has it sees the same. -/
theorem ofRule_eq_of_seesSame (hs : Workflow.parse s = .ok w) (ht : Workflow.parse t = .ok w')
    {id : String} (h : ∀ c ∈ Checker.builtins, c.rule.id = id → c.SeesSame w w' p q) :
    (validate s p).ofRule id = (validate t q).ofRule id := by
  rw [validate_eq_flatMap hs, validate_eq_flatMap ht, Findings.ofRule_flatMap,
    Findings.ofRule_flatMap]
  refine List.flatMap_congr fun c hc => ?_
  by_cases hid : c.rule.id = id
  · rw [Checker.check_eq_of_seesSame (h c hc hid)]
  · -- the findings of another rule carry another identifier
    have hbuiltin := Checker.isBuiltin_of_mem c hc
    rw [(Checker.from_check hbuiltin w p).ofRule_eq_nil hid,
      (Checker.from_check hbuiltin w' q).ofRule_eq_nil hid]

end

/-- Whatever two texts and two policies are: the findings of a run under the identifier of a rule
are what the rule finds, and both runs have the same of them if the rule sees the same. Where the
workflow lies makes no difference to any finding. Texts with the same root can have different
findings about references only, and a value of a policy that is replaced can change the findings of
one rule only. -/
theorem ofRule_validate_eq {s t : String} {w w' : Workflow} (hs : Workflow.parse s = .ok w)
    (ht : Workflow.parse t = .ok w') (p q : Policy) :
    (∀ c ∈ Checker.builtins,
      (validate s p).ofRule c.rule.id = c.rule.check w p ∧
        (c.SeesSame w w' p q →
          (validate s p).ofRule c.rule.id = (validate t q).ofRule c.rule.id)) ∧
    (∀ path, validate s { p with workflowPath := path } = validate s p) ∧
    (w.entries = w'.entries → ∀ id, id ≠ "repo-references" →
      (validate s p).ofRule id = (validate t p).ofRule id) ∧
    (∀ value id, id ≠ "repo-references" →
      (validate s { p with expectedRepo := value }).ofRule id = (validate s p).ofRule id) ∧
    (∀ value id, id ≠ "smoke-job" →
      (validate s { p with expectedPackage := value }).ofRule id = (validate s p).ofRule id) ∧
    (∀ value id, id ≠ "build-job" →
      (validate s { p with runnerFamily := value }).ofRule id = (validate s p).ofRule id) ∧
    ∀ values id, id ≠ "build-job" →
      (validate s { p with jdkVersions := values }).ofRule id = (validate s p).ofRule id := by
  have hjdks : p.SameJdks p := fun _ => Iff.rfl
  have hrefs : ∀ p, SameReferences p w w := fun _ => .inl rfl
  refine ⟨?_, ?_, ?_, ?_, ?_, ?_, ?_⟩
  · intro c hc
    refine ⟨ofRule_validate hs p hc, ?_⟩
    intro hsame
    rw [ofRule_validate hs p hc, ofRule_validate ht q hc]
    exact Checker.check_eq_of_seesSame hsame
  · intro path
    exact validate_eq_of_seesSame hs hs fun c _ =>
      .of_parts (fun _ => rfl) (fun _ => ⟨rfl, hjdks⟩) (fun _ => rfl) (fun _ => ⟨rfl, hrefs _⟩)
  · intro hentries id hid
    exact ofRule_eq_of_seesSame hs ht fun c _ hrule =>
      .of_parts (fun _ => hentries) (fun _ => ⟨rfl, hjdks⟩) (fun _ => rfl)
        (fun hother => absurd (hrule.symm.trans hother) hid)
  · intro value id hid
    exact ofRule_eq_of_seesSame hs hs fun c _ hrule =>
      .of_parts (fun _ => rfl) (fun _ => ⟨rfl, hjdks⟩) (fun _ => rfl)
        (fun hother => absurd (hrule.symm.trans hother) hid)
  · intro value id hid
    exact ofRule_eq_of_seesSame hs hs fun c _ hrule =>
      .of_parts (fun _ => rfl) (fun _ => ⟨rfl, hjdks⟩)
        (fun hother => absurd (hrule.symm.trans hother) hid) (fun _ => ⟨rfl, hrefs _⟩)
  · intro value id hid
    exact ofRule_eq_of_seesSame hs hs fun c _ hrule =>
      .of_parts (fun _ => rfl) (fun hother => absurd (hrule.symm.trans hother) hid)
        (fun _ => rfl) (fun _ => ⟨rfl, hrefs _⟩)
  · intro values id hid
    exact ofRule_eq_of_seesSame hs hs fun c _ hrule =>
      .of_parts (fun _ => rfl) (fun hother => absurd (hrule.symm.trans hother) hid)
        (fun _ => rfl) (fun _ => ⟨rfl, hrefs _⟩)

/-- A workflow with a job. -/
def blockSource : String :=
  "jobs:\n" ++
    "  build:\n" ++
    "    runs-on: ubuntu\n"

/-- The same in another layout, with a comment that names another repository. -/
def flowSource : String :=
  "# see maceip/Other\n" ++
    "jobs: \x7bbuild: \x7bruns-on: ubuntu\x7d\x7d\n"

/-- The standard policy with the versions of the JDK listed otherwise. -/
def relisted : Policy :=
  { Policy.standard with workflowPath := "ci.yml", jdkVersions := ["21", "17", "21"] }

theorem ofRule_validate_blockSource :
    ∃ w w', Workflow.parse blockSource = .ok w ∧ Workflow.parse flowSource = .ok w' ∧
      Checker.SeesSame w w' .standard relisted .buildJob ∧
      (validate blockSource .standard).ofRule "build-job" =
        (validate flowSource relisted).ofRule "build-job" := by
  have hentries : (Workflow.parse blockSource).toOption.map Workflow.entries ≠ none ∧
      (Workflow.parse blockSource).toOption.map Workflow.entries =
        (Workflow.parse flowSource).toOption.map Workflow.entries := by
    decide +kernel
  rcases Option.ne_none_iff_exists'.1 hentries.1 with ⟨entries, hblock⟩
  have hflow := hentries.2.symm.trans hblock
  rcases Option.map_eq_some_iff.1 hblock with ⟨w, hw, rfl⟩
  rcases Option.map_eq_some_iff.1 hflow with ⟨w', hw', hsame⟩
  have hparse := eq_ok_of_toOption hw
  have hparse' := eq_ok_of_toOption hw'
  have hjdks : Policy.standard.SameJdks relisted := by
    intro version
    simp only [Policy.standard, relisted, List.mem_cons, List.not_mem_nil, or_false]
    grind
  have hsees : Checker.SeesSame w w' .standard relisted .buildJob := ⟨hsame.symm, rfl, hjdks⟩
  have hbuild : Checker.buildJob ∈ Checker.builtins := by
    simp [Checker.builtins]
  exact ⟨w, w', hparse, hparse', hsees,
    ((ofRule_validate_eq hparse hparse' .standard relisted).1 .buildJob hbuild).2 hsees⟩

end WorkflowLint
