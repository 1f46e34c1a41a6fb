import WorkflowLint.Proofs.Gate
import WorkflowLint.Proofs.Reports.Result
import WorkflowLint.Run

/-!
# Checks — what a whole run comes to

A check judges its workflow once, and says so three times: in its report, in the result that it
hands back and in the status of the program. This module fixes the contents of the files and shows
that the three agree. Concretely, we:

1. describe which policies a check can have (`Loads`) and why it can have none (`PolicyFails`),
   and show that it is always one and never both,
2. describe what it finds (`Finds`), in a text and in a file without one,
3. show that every run ends in one of two ways (`deliver_onFiles`): a failure about the policy,
   with nothing written, or one whole report about one list of findings.
-/

namespace WorkflowLint

namespace Check

/-! ## Policies of a check -/

/-- The policy that a check works with, by the policy file that is asked for. -/
inductive Loads (read : String → Contents) (root : String) : Option String → Policy → Prop
  /-- No file is asked for. -/
  | standard : Loads read root none .standard
  /-- The file holds nothing. -/
  | blank {path content : String} (hread : read (Location.join root path) = .ok content)
      (hblank : Text.isBlankText content = true) : Loads read root (some path) .standard
  /-- The fields of the file stand in place of the standard ones. -/
  | given {path content : String} {o : Policy.Overrides}
      (hread : read (Location.join root path) = .ok content)
      (hfields : Text.isBlankText content = false) (hok : Policy.overrides content = .ok o)
      (hrepo : Policy.isRepo (o.apply .standard).expectedRepo = true) :
      Loads read root (some path) (o.apply .standard)

/-- Why a check has no policy. Only a file that is asked for can be at fault. -/
inductive PolicyFails (read : String → Contents) (root : String) : Option String → Failure → Prop
  /-- There is no text to read. -/
  | unreadable {path : String} {cause : ReadError}
      (hread : read (Location.join root path) = .error cause) :
      PolicyFails read root (some path) (.unreadablePolicy (Location.join root path))
  /-- The text does not parse. -/
  | malformed {path content : String} {cause : Yaml.Error}
      (hread : read (Location.join root path) = .ok content)
      (hfields : Text.isBlankText content = false)
      (herror : Policy.overrides content = .error cause) :
      PolicyFails read root (some path)
        (.invalidPolicy (Location.join root path) (.malformed cause))
  /-- The expected repository is not an owner and a name. -/
  | invalidRepo {path content : String} {o : Policy.Overrides}
      (hread : read (Location.join root path) = .ok content)
      (hfields : Text.isBlankText content = false) (hok : Policy.overrides content = .ok o)
      (hrepo : Policy.isRepo (o.apply .standard).expectedRepo = false) :
      PolicyFails read root (some path)
        (.invalidPolicy (Location.join root path)
          (.invalidRepo (o.apply .standard).expectedRepo))

variable {read : String → Contents} {palette : Palette} {root : String} {o : CheckOptions}
variable {p : Policy} {e : Failure}

/-- The policy of a check over fixed contents. -/
def policyOnFiles (read : String → Contents) (root : String) (o : CheckOptions) :
    Except Failure Policy :=
  (loadPolicy (m := Id) (fun location => pure (read location)) root o).run

theorem policyOnFiles_eq_ok (h : Loads read root o.policy p) :
    policyOnFiles read root o = .ok p := by
  rw [policyOnFiles, loadPolicy, policyLocation]
  generalize o.policy = path at h
  cases h with
  | standard =>
      rfl
  | blank hread hblank =>
      simp [policyOfContents, hread, Policy.parse, hblank, Except.mapError]
  | given hread hfields hok hrepo =>
      simp [policyOfContents, hread, Policy.parse, hfields, hok, hrepo, Except.mapError]

theorem policyOnFiles_eq_error (h : PolicyFails read root o.policy e) :
    policyOnFiles read root o = .error e := by
  rw [policyOnFiles, loadPolicy, policyLocation]
  generalize o.policy = path at h
  cases h with
  | unreadable hread =>
      simp [policyOfContents, hread]
  | malformed hread hfields herror =>
      simp [policyOfContents, hread, Policy.parse, hfields, herror, Except.mapError]
  | invalidRepo hread hfields hok hrepo =>
      simp [policyOfContents, hread, Policy.parse, hfields, hok, hrepo, Except.mapError]

/-- A check has a policy or a reason to have none. -/
theorem fails_or_loads (read : String → Contents) (root : String) (path : Option String) :
    (∃ e, PolicyFails read root path e) ∨ ∃ p, Loads read root path p := by
  cases path with
  | none =>
      exact .inr ⟨_, .standard⟩
  | some path =>
      cases hread : read (Location.join root path) with
      | error cause =>
          exact .inl ⟨_, .unreadable hread⟩
      | ok content =>
          cases hblank : Text.isBlankText content with
          | true =>
              exact .inr ⟨_, .blank hread hblank⟩
          | false =>
              cases hfields : Policy.overrides content with
              | error cause =>
                  exact .inl ⟨_, .malformed hread hblank hfields⟩
              | ok o =>
                  cases hrepo : Policy.isRepo (o.apply .standard).expectedRepo with
                  | false =>
                      exact .inl ⟨_, .invalidRepo hread hblank hfields hrepo⟩
                  | true =>
                      exact .inr ⟨_, .given hread hblank hfields hrepo⟩

/-- A check with a policy has no reason to have none. -/
theorem Loads.not_fails (h : Loads read root o.policy p) : ¬ PolicyFails read root o.policy e := by
  intro he
  -- loading has one result
  have hboth := (policyOnFiles_eq_ok h).symm.trans (policyOnFiles_eq_error he)
  cases hboth

/-! ## Findings of a check -/

/-- What a check finds, by what reading the workflow comes to. -/
inductive Finds (p : Policy) (location : String) : Contents → Findings → Prop
  | validated (source : String) : Finds p location (.ok source) (validate source p)
  | unread (cause : ReadError) :
      Finds p location (.error cause)
        [Diagnostic.error "workflow-file" (Validation.unreadMessage location cause)]

theorem finds_ofContents (p : Policy) (location : String) (contents : Contents) :
    Finds p location contents (Validation.ofContents .builtins p location contents).findings := by
  cases contents with
  | error cause =>
      exact .unread cause
  | ok source =>
      exact .validated source

/-- Findings that pass come from a text that was read and parsed. -/
theorem Finds.sound {location : String} {contents : Contents} {f : Findings} (strict : Bool)
    (h : Finds p location contents f) (hf : f.passed strict = true) :
    ∃ source w, contents = .ok source ∧ Workflow.parse source = .ok w ∧
      f.errors = [] ∧ (strict = true → f = []) := by
  have hnone := Findings.none_of_passed hf
  cases h with
  | unread cause =>
      -- the one finding about a file without a text is an error
      cases hnone.1
  | validated source =>
      cases hparse : Workflow.parse source with
      | ok w =>
          exact ⟨source, w, rfl, hparse, hnone⟩
      | error cause =>
          -- and so is the one about a text that is no workflow
          have hrefused := hnone.1
          rw [validate, validateWith_of_error hparse] at hrefused
          cases hrefused

/-! ## Whole runs -/

/-- A check over fixed contents of the files. -/
def onFiles (read : String → Contents) (palette : Palette) (root : String) (o : CheckOptions) :
    Run :=
  (run (m := Id) (fun location => pure (read location)) palette root o).run

theorem outcome_onFiles_of_error (h : policyOnFiles read root o = .error e) :
    (onFiles read palette root o).outcome = .error e := by
  rw [policyOnFiles] at h
  simp [onFiles, run, h]

theorem outcome_onFiles_of_ok (palette : Palette) (h : policyOnFiles read root o = .ok p) :
    (onFiles read palette root o).outcome =
      .ok (outcome palette o ⟨workflowLocation root o.file p,
        (Validation.ofContents .builtins p (workflowLocation root o.file p)
          (read (workflowLocation root o.file p))).findings, o.strict⟩) := by
  rw [policyOnFiles] at h
  simp [onFiles, run, h, report]

/-- A delivery is that of one whole report about some findings, and everything that it says of
them agrees. -/
structure Reports (palette : Palette) (r : Report) (format : Format)
    (d : List UInt8 × Except Failure Bool) : Prop where
  /-- The report is written, all of it and nothing else. -/
  written : d.1 = Delivery.octets (r.text palette format)
  result : d.2 = .ok (r.findings.passed r.strict)
  status : Run.status d.2 = if r.findings.passed r.strict then 0 else 1
  /-- Who reads the report learns the status. -/
  shows : Report.Shows (r.text palette format) (Run.status d.2 = 0) format

theorem reports_deliver {run : Run} {r : Report} (h : run.outcome = .ok (outcome palette o r)) :
    Reports palette r o.format (Run.deliver none run) := by
  have hdeliver : Run.deliver none run =
      (Delivery.octets (r.text palette o.format), .ok r.passed) := by
    simp [Run.deliver, h, Delivery.run, Delivery.unlimited, outcome, Report.flatMap_octets_pieces]
  have hstatus : Run.status (.ok r.passed) = if r.passed then 0 else 1 := by
    cases r.passed <;> rfl
  have hpassed : Run.status (.ok r.passed) = 0 ↔ r.passed = true := by
    cases r.passed <;> simp [Run.status]
  rw [hdeliver]
  refine ⟨rfl, rfl, hstatus, ?_⟩
  rw [propext hpassed]
  exact r.shows_text palette o.format

/-- Whatever the files hold, a check ends in exactly one of two ways: it fails because of the
policy that is asked for and writes nothing, or it writes one whole report about what it finds in
the workflow, and its result, its status and the text agree on whether that passes. With status
zero, the workflow was read and parsed and holds no errors, and if the check is strict, nothing
at all was found. -/
theorem deliver_onFiles (read : String → Contents) (palette : Palette) (root : String)
    (o : CheckOptions) :
    ((∃ e, PolicyFails read root o.policy e ∧
        Run.deliver none (onFiles read palette root o) = ([], .error e)) ∨
      (∀ e, ¬ PolicyFails read root o.policy e) ∧
        ∃ p f, Loads read root o.policy p ∧
          Finds p (workflowLocation root o.file p) (read (workflowLocation root o.file p)) f ∧
          Reports palette ⟨workflowLocation root o.file p, f, o.strict⟩ o.format
            (Run.deliver none (onFiles read palette root o))) ∧
    (Run.status (Run.deliver none (onFiles read palette root o)).2 = 0 →
      ∃ p source w, Loads read root o.policy p ∧
        read (workflowLocation root o.file p) = .ok source ∧ Workflow.parse source = .ok w ∧
        (validate source p).errors = [] ∧ (o.strict = true → validate source p = [])) := by
  rcases fails_or_loads read root o.policy with ⟨e, he⟩ | ⟨p, hp⟩
  · have hdeliver : Run.deliver none (onFiles read palette root o) = ([], .error e) := by
      rw [Run.deliver, outcome_onFiles_of_error (policyOnFiles_eq_error he)]
    refine ⟨.inl ⟨e, he, hdeliver⟩, ?_⟩
    -- zero is not the status of a failure
    rw [hdeliver]
    intro hzero
    cases hzero
  · have hfinds := finds_ofContents p (workflowLocation root o.file p)
      (read (workflowLocation root o.file p))
    have hreports := reports_deliver (outcome_onFiles_of_ok palette (policyOnFiles_eq_ok hp))
    refine ⟨.inr ⟨fun _ => hp.not_fails, p, _, hp, hfinds, hreports⟩, ?_⟩
    intro hzero
    have hstatus := hreports.status.symm.trans hzero
    rcases hfinds.sound o.strict (by simpa using hstatus) with
      ⟨source, w, hread, hparse, hnone⟩
    rw [hread] at hnone
    exact ⟨p, source, w, hp, hread, hparse, hnone⟩

end Check

end WorkflowLint
