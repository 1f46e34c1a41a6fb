import WorkflowLint.Proofs.Advice
import WorkflowLint.Proofs.Reports.Reading
import WorkflowLint.Proofs.Yaml.Messages

/-!
# Line breaks — what a workflow can write into its own report

A report for readers is meant to have one line for each diagnostic, blocks of as many lines as
their titles say, and one line with the result (`Report.LineByLine`). Messages quote the workflow,
and three of them quote it as it is: a key on the way to what could not be read, the runner of the
build job, and a version of the JDK. If such a text holds a line feed (`QuotesLineFeed`), the
message goes on in a line that the workflow has written. Nothing else in a workflow breaks a
report's lines (`Report.lineByLine_validate_iff`).
-/

namespace WorkflowLint

open Text (IsLine isLine_append isLine_literal isLine_ofList)
open Yaml (Value)

/-! ## Findings of one line each -/

/-- Every message takes one line. -/
def Findings.OneLine (f : Findings) : Prop :=
  ∀ d ∈ f, IsLine d.message

namespace Findings

variable {f g : Findings} {d : Diagnostic}

@[simp] theorem oneLine_singleton : OneLine [d] ↔ IsLine d.message := by
  simp [OneLine]

@[simp] theorem oneLine_append : OneLine (f ++ g) ↔ f.OneLine ∧ g.OneLine := by
  simp [OneLine, or_imp, forall_and]

@[simp] theorem oneLine_when {condition : Bool} :
    OneLine (Diagnostic.when condition d) ↔ (condition = true → IsLine d.message) := by
  cases condition <;> simp [OneLine, Diagnostic.when]

@[simp] theorem oneLine_map {α : Type} {make : α → Diagnostic} {items : List α} :
    OneLine (items.map make) ↔ ∀ a ∈ items, IsLine (make a).message := by
  simp [OneLine]

end Findings

/-! ## Messages of the rules -/

/-- The values of a policy that messages quote take one line each. -/
structure Policy.OneLine (p : Policy) : Prop where
  repo : IsLine p.expectedRepo
  package : IsLine p.expectedPackage
  runner : IsLine p.runnerFamily

theorem Policy.OneLine.isLine_owner {p : Policy} (h : p.OneLine) : IsLine p.owner := by
  rw [owner, isLine_ofList]
  exact fun hmem => h.repo ((List.takeWhile_prefix _).subset hmem)

theorem RequiredKeys.oneLine_check (w : Workflow) : (check w).OneLine := by
  have hkeys : ∀ key ∈ keys, IsLine (missing key).message := by
    decide +kernel
  rw [check, Findings.oneLine_map]
  exact fun key hkey => hkeys key (List.mem_of_mem_filter hkey)

theorem DispatchTrigger.oneLine_check (w : Workflow) : (check w).OneLine := by
  unfold check
  split
  · exact Findings.oneLine_singleton.2 (isLine_literal (by decide))
  · split
    · exact Findings.oneLine_singleton.2 (isLine_literal (by decide))
    · unfold checkInput
      split
      · exact Findings.oneLine_singleton.2 (isLine_literal (by decide))
      · exact Findings.oneLine_when.2 fun _ => isLine_literal (by decide)

theorem PermissionsDeclared.oneLine_check (w : Workflow) : (check w).OneLine :=
  Findings.oneLine_when.2 fun _ => isLine_literal (by decide)

theorem JobsDefined.oneLine_check (w : Workflow) : (check w).OneLine :=
  Findings.oneLine_when.2 fun _ => isLine_literal (by decide)

theorem SmokeJob.oneLine_check {p : Policy} (hp : p.OneLine) (w : Workflow) :
    (check w p).OneLine := by
  unfold check
  cases w.job? job with
  | none =>
      exact Findings.oneLine_singleton.2 (isLine_literal (by decide))
  | some j =>
      have hpackage : IsLine
          ("Smoke job doesn't reference expected package '" ++ p.expectedPackage ++ "'") := by
        simp only [isLine_append, hp.package, and_true]
        exact ⟨isLine_literal (by decide), isLine_literal (by decide)⟩
      simp only [checkJob, Findings.oneLine_append, Findings.oneLine_when]
      refine ⟨⟨⟨⟨⟨⟨?_, ?_⟩, ?_⟩, ?_⟩, ?_⟩, ?_⟩, fun _ => hpackage⟩ <;>
        exact fun _ => isLine_literal (by decide)

/-- A reference is the owner, a slash and name characters, none of which is a line feed. -/
theorem Reference.isLine_of_mem_findAll {owner source found : String} (howner : IsLine owner)
    (h : found ∈ findAll owner source) : IsLine found := by
  rcases exists_covers_findAll owner source with ⟨spans, hspans, htexts⟩
  rw [htexts, List.mem_map] at h
  rcases h with ⟨s, hs, rfl⟩
  rcases (hspans.references s hs).shape with ⟨name, hslice, _, hname⟩
  rw [Span.text, hslice, isLine_ofList, List.mem_append, List.mem_cons]
  rintro (hmem | hmem | hmem)
  · exact howner hmem
  · exact absurd hmem (by decide)
  · exact absurd (hname _ hmem) (by decide)

theorem RepoReferences.oneLine_check {p : Policy} (hp : p.OneLine) (w : Workflow) :
    (rule.check w p).OneLine := by
  have hlead : IsLine "Incorrect repo reference '" := isLine_literal (by decide)
  have hjoint : IsLine "', expected '" := isLine_literal (by decide)
  have hend : IsLine "'" := by decide
  show Findings.OneLine (checkSource p w.source)
  rw [checkSource, Findings.oneLine_map]
  intro found hfound
  have hline := Reference.isLine_of_mem_findAll hp.isLine_owner (List.mem_of_mem_filter hfound)
  show IsLine ("Incorrect repo reference '" ++ found ++ "', expected '" ++ p.expectedRepo ++ "'")
  simp only [isLine_append, hlead, hline, hjoint, hp.repo, hend, and_self]

namespace BuildJob

/-- The job does not run on the expected runners, and what it runs on has a line feed. -/
def BreaksAtRunner (p : Policy) (job : View) : Prop :=
  UnusualRunner p job ∧ ¬ IsLine (job.get "runs-on").text

instance (p : Policy) (job : View) : Decidable (BreaksAtRunner p job) :=
  inferInstanceAs (Decidable (_ ∧ _))

/-- A step sets up an unusual JDK, and its version has a line feed. -/
def BreaksAtVersion (p : Policy) (job : View) : Prop :=
  ∃ step ∈ (job.get "steps").items,
    UnusualJdk p step ∧ ¬ IsLine ((step.get "with").get "java-version").text

theorem oneLine_runner_iff {p : Policy} (hp : p.OneLine) (job : View) :
    (Advice.runner p job).OneLine ↔ ¬ BreaksAtRunner p job := by
  have hlead : IsLine "Build job runs-on '" := isLine_literal (by decide)
  have hjoint : IsLine "' (expected " := isLine_literal (by decide)
  have hend : IsLine "-based runner)" := isLine_literal (by decide)
  unfold Advice.runner BreaksAtRunner
  split
  · next hunusual =>
    simp only [Findings.oneLine_singleton, Advice.advise, isLine_append, hlead, hjoint, hp.runner,
      hend, hunusual, true_and, and_true, not_not]
  · next husual =>
    exact iff_of_true (List.forall_mem_nil _) fun h => husual h.1

theorem oneLine_jdks_iff (p : Policy) (job : View) :
    (Advice.jdks p job).OneLine ↔ ¬ BreaksAtVersion p job := by
  have hlead : IsLine "Unusual JDK version: " := isLine_literal (by decide)
  simp only [Advice.jdks, Findings.oneLine_map, Advice.advise, isLine_append, hlead, true_and,
    List.mem_filter, decide_eq_true_eq, BreaksAtVersion, not_exists, not_and, not_not, and_imp]

theorem oneLine_check_iff {p : Policy} (hp : p.OneLine) (w : Workflow) :
    (check w p).OneLine ↔
      ¬ BreaksAtRunner p (w.jobs.get "build") ∧ ¬ BreaksAtVersion p (w.jobs.get "build") := by
  rcases w.job?_cases "build" with ⟨hjob, hno⟩ | ⟨hjob, -⟩
  · -- without a job there is no text to break a line
    have hget : w.jobs.get "build" = .absent := (View.get_eq_absent_iff w.jobs "build").2 hno
    rw [check, job, hjob, hget]
    refine iff_of_true (Findings.oneLine_singleton.2 (isLine_literal (by decide))) ⟨?_, ?_⟩
    · exact fun h => h.2 (by decide)
    · rintro ⟨step, hstep, -⟩
      cases hstep
  · have herror : ∀ message, IsLine message →
        ∀ condition, Findings.OneLine (Diagnostic.when condition (error message)) :=
      fun message hline condition => Findings.oneLine_when.2 fun _ => hline
    have hcheckout := herror "Build job missing actions/checkout step"
      (isLine_literal (by decide))
    have hjava := herror "Build job missing actions/setup-java step"
      (isLine_literal (by decide))
    have hgradle := herror "Build job missing Gradle setup or gradlew invocation"
      (isLine_literal (by decide))
    have hassemble := herror "Build job doesn't run assembleDebug"
      (isLine_literal (by decide))
    have hupload := herror "Build job missing artifact upload step"
      (isLine_literal (by decide))
    rw [check, job, hjob]
    simp only [checkJob, Findings.oneLine_append, checkRunner_eq, flatMap_checkVersion,
      oneLine_runner_iff hp, oneLine_jdks_iff, hcheckout, hjava, hgradle, hassemble, hupload,
      and_true]

end BuildJob

/-! ## Texts that are no workflow -/

namespace WorkflowError

/-- The keys on the way to what could not be read. -/
def keys : WorkflowError → List String
  | .malformed cause => cause.keys
  | _ => []

theorem isLine_notAMapping (v : Value) : IsLine (notAMapping (View.ofValue v).kind).message := by
  have hkind : ∀ view : View, IsLine view.kind := by
    intro view
    cases view <;> exact isLine_literal (by decide)
  exact (isLine_append _ _).2 ⟨isLine_literal (by decide), hkind _⟩

theorem isLine_message_iff {source : String} {cause : WorkflowError}
    (h : Workflow.parse source = .error cause) :
    IsLine cause.message ↔ ∀ key ∈ cause.keys, IsLine key := by
  have hempty : IsLine empty.message := isLine_literal (by decide)
  unfold Workflow.parse at h
  split at h
  · cases h
    exact iff_of_true hempty (List.forall_mem_nil _)
  · split at h
    · next e hvalue =>
      cases h
      have hlead : IsLine "YAML syntax error: " := isLine_literal (by decide)
      unfold message keys
      simp only [isLine_append, hlead, true_and,
        Yaml.Error.isLine_message_iff (Yaml.Value.contentOnOneLine_of_parse_eq_error hvalue)]
    · next v _ =>
      unfold Workflow.ofValue at h
      split at h
      · cases h
      · cases h
        exact iff_of_true hempty (List.forall_mem_nil _)
      · cases h
        exact iff_of_true (isLine_notAMapping v) (List.forall_mem_nil _)

end WorkflowError

/-! ## Texts that break lines -/

/-- A text of the workflow that a message quotes as it is has a line feed: a key on the way to
what could not be read, what the build job runs on if that is unusual, or the version of an unusual
JDK. -/
inductive QuotesLineFeed (p : Policy) (source : String) : Prop
  | key {cause : WorkflowError} {key : String} (hparse : Workflow.parse source = .error cause)
      (hkey : key ∈ cause.keys) (hbreak : ¬ IsLine key)
  | runner {w : Workflow} (hparse : Workflow.parse source = .ok w)
      (hbreak : BuildJob.BreaksAtRunner p (w.jobs.get "build"))
  | version {w : Workflow} (hparse : Workflow.parse source = .ok w)
      (hbreak : BuildJob.BreaksAtVersion p (w.jobs.get "build"))

/-- Every message takes one line, unless the workflow has a line feed where it is quoted. -/
theorem oneLine_validate_iff {p : Policy} (hp : p.OneLine) (source : String) :
    (validate source p).OneLine ↔ ¬ QuotesLineFeed p source := by
  cases hparse : Workflow.parse source with
  | error cause =>
      have hquotes : QuotesLineFeed p source ↔ ∃ key ∈ cause.keys, ¬ IsLine key := by
        constructor
        · rintro (⟨hparse', hkey, hbreak⟩ | ⟨hparse', -⟩ | ⟨hparse', -⟩) <;>
            rw [hparse] at hparse' <;> cases hparse'
          exact ⟨_, hkey, hbreak⟩
        · rintro ⟨key, hkey, hbreak⟩
          exact .key hparse hkey hbreak
      rw [validate, validateWith_of_error hparse, Findings.oneLine_singleton, hquotes]
      simp only [not_exists, not_and, not_not]
      exact WorkflowError.isLine_message_iff hparse
  | ok w =>
      have hquotes : QuotesLineFeed p source ↔
          BuildJob.BreaksAtRunner p (w.jobs.get "build") ∨
            BuildJob.BreaksAtVersion p (w.jobs.get "build") := by
        constructor
        · rintro (⟨hparse', -⟩ | ⟨hparse', hbreak⟩ | ⟨hparse', hbreak⟩) <;>
            rw [hparse] at hparse' <;> cases hparse'
          · exact .inl hbreak
          · exact .inr hbreak
        · rintro (hbreak | hbreak)
          · exact .runner hparse hbreak
          · exact .version hparse hbreak
      rw [validate, validateWith_of_ok hparse, Registry.run_builtins_eq, hquotes, not_or]
      simp only [Findings.oneLine_append, RequiredKeys.oneLine_check,
        DispatchTrigger.oneLine_check, PermissionsDeclared.oneLine_check,
        JobsDefined.oneLine_check, SmokeJob.oneLine_check hp, RepoReferences.oneLine_check hp,
        true_and, and_true]
      exact BuildJob.oneLine_check_iff hp w

/-! ## Lines of a report on a workflow -/

namespace Report

open Text (Line)

/-- The line begins the block with a title. -/
def Titles (title : String) (line : Line) : Prop :=
  (title ++ " (").toList <+: line

/-- A report for readers has the lines that it is meant to have. -/
structure LineByLine (r : Report) : Prop where
  /-- Each diagnostic has a line of its own, and so has everything else. -/
  lines_eq : Text.lines (human .plain r).toList = (lines .plain r).map String.toList
  /-- As many lines follow the title of a block as it says. -/
  counts_eq : ∀ title ∈ ["Warnings", "Errors"], ∀ first items,
    first :: items ∈ Text.paragraphs (Text.lines (human .plain r).toList) → Titles title first →
      first = (title ++ " (" ++ toString items.length ++ "):").toList
  /-- There is one line with a result. -/
  result_once : (Text.lines (human .plain r).toList).countP ("RESULT:".toList.isPrefixOf ·) = 1

theorem item_mem_block {d : Diagnostic} {f : Findings} (title mark : String) (h : d ∈ f) :
    item mark d ∈ block title mark f := by
  rw [block, if_neg (by simpa using List.ne_nil_of_mem h)]
  exact List.mem_cons_of_mem _ (List.mem_cons_of_mem _ (List.mem_map_of_mem h))

/-- Each diagnostic is written as a line, whatever is made of it. -/
theorem item_mem_lines {r : Report} {d : Diagnostic} (h : d ∈ r.findings) :
    ∃ mark, item mark d ∈ lines .plain r := by
  cases hseverity : d.severity with
  | warning =>
      have hd : d ∈ r.findings.warnings := List.mem_filter.2 ⟨h, by rw [hseverity]; rfl⟩
      have hitem := item_mem_block "Warnings" (Style.plain.apply warningMark) hd
      exact ⟨_, List.mem_append_left _ (List.mem_append_left _ (List.mem_append_right _ hitem))⟩
  | error =>
      have hd : d ∈ r.findings.errors := List.mem_filter.2 ⟨h, by rw [hseverity]; rfl⟩
      have hitem := item_mem_block "Errors" (Style.plain.apply errorMark) hd
      exact ⟨_, List.mem_append_left _ (List.mem_append_right _ hitem)⟩

theorem LineByLine.oneLine {r : Report} (h : r.LineByLine) : r.OneLine := by
  have hlines : ∀ line ∈ lines .plain r, IsLine line := by
    have hnone := @Text.newline_not_mem_of_mem_lines (human .plain r).toList
    rwa [h.lines_eq, List.forall_mem_map] at hnone
  constructor
  · have hheading : IsLine ("Validating: " ++ r.location) := hlines _ (by simp [lines])
    exact ((isLine_append _ _).1 hheading).2
  · intro d hd
    rcases item_mem_lines hd with ⟨mark, hitem⟩
    exact ((isLine_append _ _).1 (hlines _ hitem)).2

/-- A text that begins with another word does not begin with that of the result. -/
theorem isPrefixOf_lead {lead : String} (h : ¬ lead.toList <+: "RESULT:".toList)
    (h' : ¬ "RESULT:".toList <+: lead.toList) (s : String) :
    "RESULT:".toList.isPrefixOf (lead ++ s).toList = false :=
  Reading.lacks_of_lead h h' s []

theorem countP_block {title : String} (h : ¬ title.toList <+: "RESULT:".toList)
    (h' : ¬ "RESULT:".toList <+: title.toList) (mark : String) (f : Findings) :
    ((block title mark f).map String.toList).countP ("RESULT:".toList.isPrefixOf ·) = 0 := by
  rw [List.countP_eq_zero, List.forall_mem_map]
  intro line hline
  rw [Bool.not_eq_true]
  unfold block at hline
  split at hline
  · cases hline
  · rw [List.mem_cons, List.mem_cons, List.mem_map] at hline
    rcases hline with rfl | rfl | ⟨d, -, rfl⟩
    · decide
    · rw [String.append_assoc, String.append_assoc]
      exact isPrefixOf_lead h h' _
    · rw [item, String.append_assoc, String.append_assoc]
      exact isPrefixOf_lead (by decide) (by decide) _

/-- Only the line of the result begins with its word. -/
theorem countP_result (r : Report) :
    ((lines .plain r).map String.toList).countP ("RESULT:".toList.isPrefixOf ·) = 1 := by
  have hheading : "RESULT:".toList.isPrefixOf ("Validating: " ++ r.location).toList = false :=
    isPrefixOf_lead (by decide) (by decide) _
  have hrule : "RESULT:".toList.isPrefixOf rule.toList = false := by
    decide
  have hresult : "RESULT:".toList.isPrefixOf (result .plain r).toList = true := by
    rcases exists_result_eq r with ⟨s, hs⟩
    rw [hs, List.isPrefixOf_iff_prefix]
    exact ⟨" ".toList ++ s.toList, by simp⟩
  simp only [lines, List.map_append, List.countP_append, List.map_cons, List.map_nil,
    List.countP_cons, List.countP_nil, hheading, hrule, hresult]
  rw [countP_block (by decide) (by decide), countP_block (by decide) (by decide)]
  rfl

theorem mem_blockParagraphs {title mark : String} {f : Findings} {first : Line}
    {items : List Line} (h : first :: items ∈ blockParagraphs title mark f) :
    first = (title ++ " (" ++ toString items.length ++ "):").toList := by
  unfold blockParagraphs at h
  split at h
  · cases h
  · cases List.mem_singleton.1 h
    rw [List.length_map]

theorem OneLine.counts_eq {r : Report} (h : r.OneLine) {title : String}
    (htitle : title ∈ ["Warnings", "Errors"]) {first : Line} {items : List Line}
    (hmem : first :: items ∈ Text.paragraphs (Text.lines (human .plain r).toList))
    (hfirst : Titles title first) :
    first = (title ++ " (" ++ toString items.length ++ "):").toList := by
  -- a paragraph that begins otherwise than with the title is out of the question
  have hno : ¬ Reading.Lacks (title ++ " (") (first :: items) := by
    rw [Reading.Lacks, List.head?_cons, Option.any_some, Bool.not_eq_false,
      List.isPrefixOf_iff_prefix]
    exact hfirst
  rw [paragraphs_human h, List.mem_cons, List.mem_append, List.mem_append, List.mem_singleton]
    at hmem
  simp only [List.mem_cons, List.not_mem_nil, or_false] at htitle
  rcases htitle with rfl | rfl
  · rcases hmem with hmem | hmem | hmem | hmem
    · exact absurd (hmem ▸ Reading.lacks_of_lead (by decide) (by decide) _ _) hno
    · exact mem_blockParagraphs hmem
    · exact absurd (Reading.lacks_blockParagraphs (by decide) (by decide) _ hmem) hno
    · exact absurd (hmem ▸ Reading.lacks_result (by decide) (by decide) r) hno
  · rcases hmem with hmem | hmem | hmem | hmem
    · exact absurd (hmem ▸ Reading.lacks_of_lead (by decide) (by decide) _ _) hno
    · exact absurd (Reading.lacks_blockParagraphs (by decide) (by decide) _ hmem) hno
    · exact mem_blockParagraphs hmem
    · exact absurd (hmem ▸ Reading.lacks_result (by decide) (by decide) r) hno

theorem OneLine.lineByLine {r : Report} (h : r.OneLine) : r.LineByLine where
  lines_eq := h.lines_human
  counts_eq := fun _ htitle _ _ hmem hfirst => h.counts_eq htitle hmem hfirst
  result_once := by
    rw [h.lines_human]
    exact countP_result r

/-- The report on a workflow has the lines that it is meant to have, under a policy and at a
location of one line each, unless the workflow has a line feed in a text that a message quotes as
it is; then it has not. -/
theorem lineByLine_validate_iff {location : String} {p : Policy} (hlocation : IsLine location)
    (hp : p.OneLine) (source : String) (strict : Bool) :
    LineByLine ⟨location, validate source p, strict⟩ ↔ ¬ QuotesLineFeed p source := by
  rw [← oneLine_validate_iff hp]
  constructor
  · intro h
    exact h.oneLine.messages
  · intro h
    exact OneLine.lineByLine ⟨hlocation, h⟩

/-- A workflow whose build job runs on something of two lines, the second like a result. -/
def forgedSource : String :=
  "jobs:\n" ++
    "  build:\n" ++
    "    runs-on: \"x\\nRESULT: PASS\"\n"

theorem standard_oneLine : Policy.standard.OneLine where
  repo := by decide
  package := by decide
  runner := by decide

theorem not_lineByLine_forgedSource :
    IsLine "w.yml" ∧ Policy.standard.OneLine ∧ QuotesLineFeed .standard forgedSource ∧
      ¬ LineByLine ⟨"w.yml", validate forgedSource .standard, true⟩ := by
  have hlocation : IsLine "w.yml" := by
    decide
  have hbreaks : (Workflow.parse forgedSource).toOption.map (fun w =>
      decide (BuildJob.BreaksAtRunner .standard (w.jobs.get "build"))) = some true := by
    decide +kernel
  rcases Option.map_eq_some_iff.1 hbreaks with ⟨w, hw, hrunner⟩
  have hquotes : QuotesLineFeed .standard forgedSource :=
    .runner (eq_ok_of_toOption hw) (of_decide_eq_true hrunner)
  refine ⟨hlocation, standard_oneLine, hquotes, ?_⟩
  rw [lineByLine_validate_iff hlocation standard_oneLine]
  exact not_not_intro hquotes

/-- Two lines of its report begin like a result, and three lines follow the title of its two
warnings. -/
theorem human_forgedSource :
    (Text.lines (human .plain ⟨"w.yml", validate forgedSource .standard, false⟩).toList).countP
        ("RESULT:".toList.isPrefixOf ·) = 2 ∧
      (Text.paragraphs (Text.lines
        (human .plain ⟨"w.yml", validate forgedSource .standard, false⟩).toList)).any (fun block =>
          block.head? == some "Warnings (2):".toList && block.tail.length == 3) = true ∧
      ¬ LineByLine ⟨"w.yml", validate forgedSource .standard, false⟩ := by
  rw [← and_assoc]
  have htext : (Text.lines
        (human .plain ⟨"w.yml", validate forgedSource .standard, false⟩).toList).countP
        ("RESULT:".toList.isPrefixOf ·) = 2 ∧
      (Text.paragraphs (Text.lines
        (human .plain ⟨"w.yml", validate forgedSource .standard, false⟩).toList)).any (fun block =>
          block.head? == some "Warnings (2):".toList && block.tail.length == 3) = true := by
    rw [lines_human]
    decide +kernel
  refine ⟨htext, ?_⟩
  intro h
  have honce := h.result_once
  rw [htext.1] at honce
  cases honce

end Report

end WorkflowLint
