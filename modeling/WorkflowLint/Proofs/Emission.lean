import Mathlib.Data.List.Basic
import WorkflowLint.Emission

/-!
# Emissions — rules on a shared sink do not meddle

A procedure that only adds findings can be told by what it adds (`Emission.Appends`). Such
procedures can be put one after another, and what they add is put together in the same order. Each
rule, carried out on a sink, is such a procedure, and adds what the rule finds by itself. So the
findings of a run are those of its rules, each run alone, one after another
(`Checker.validateWith_eq_concat`).
-/

namespace WorkflowLint

open Diagnostic (when)

namespace Emission

/-! ## Procedures that only add -/

/-- The procedure adds findings to whatever sink it gets, and does nothing else. -/
def Appends (e : Emission) (f : Findings) : Prop :=
  ∀ sink, e.run sink = ((), sink ++ f)

variable {e e' : Emission} {f f' : Findings}

namespace Appends

theorem after_eq (h : e.Appends f) (sink : Findings) : e.after sink = sink ++ f := by
  rw [after, h sink]

theorem alone_eq (h : e.Appends f) : e.alone = f := by
  rw [alone, h.after_eq, List.nil_append]

theorem pure : Appends (Pure.pure ()) [] := by
  intro sink
  rw [List.append_nil]
  rfl

theorem push (d : Diagnostic) : (push d).Appends [d] := by
  intro sink
  rfl

theorem error (rule message : String) :
    (error rule message).Appends [Diagnostic.error rule message] :=
  push _

theorem warning (rule message : String) :
    (warning rule message).Appends [Diagnostic.warning rule message] :=
  push _

theorem bind (h : e.Appends f) (h' : e'.Appends f') :
    Appends (e >>= fun _ => e') (f ++ f') := by
  intro sink
  have hrun : (e >>= fun _ => e').run sink = e'.run (e.run sink).2 := rfl
  rw [hrun, h sink, h' (sink ++ f), List.append_assoc]

theorem when {d : Diagnostic} (condition : Bool) (h : e.Appends [d]) :
    (Emission.when condition e).Appends (Diagnostic.when condition d) := by
  cases condition with
  | true =>
      exact h
  | false =>
      exact pure

/-- A loop adds what its rounds add. -/
theorem forM {α : Type} {body : α → Emission} {find : α → Findings}
    (h : ∀ a, (body a).Appends (find a)) (items : List α) :
    Appends (items.forM body) (items.flatMap find) := by
  induction items with
  | nil =>
      exact pure
  | cons a items ih =>
      exact (h a).bind ih

end Appends

end Emission

open Emission (Appends)

/-! ## Rules -/

theorem flatMap_when {α : Type} (condition : α → Bool) (make : α → Diagnostic) (items : List α) :
    items.flatMap (fun a => when (condition a) (make a)) = (items.filter condition).map make := by
  induction items with
  | nil =>
      rfl
  | cons a items ih =>
      rw [List.flatMap_cons, ih]
      cases h : condition a <;> simp [when, h]

theorem RequiredKeys.appends (w : Workflow) : (emit w).Appends (check w) := by
  rw [check, ← flatMap_when]
  exact .forM (fun key => .when _ (.push _)) keys

theorem DispatchTrigger.appends (w : Workflow) : (emit w).Appends (check w) := by
  unfold emit check
  cases Dispatch.find (w.get "on") with
  | missing =>
      exact .push _
  | bare =>
      exact .warning _ _
  | declared value =>
      simp only [Dispatch.body?]
      cases value.isFilledMapping with
      | false =>
          exact .warning _ _
      | true =>
          simp only [if_true, checkInput]
          split
          · exact .warning _ _
          · exact .when _ (.warning _ _)

theorem PermissionsDeclared.appends (w : Workflow) : (emit w).Appends (check w) := by
  unfold emit check
  -- the two ways to ask for permissions agree on every view
  cases w.get "permissions" <;> exact .when _ (.push _)

theorem JobsDefined.appends (w : Workflow) : (emit w).Appends (check w) := by
  unfold emit check
  split
  · next hjobs =>
    rw [hjobs]
    exact .pure
  · next hjobs =>
    have hnone : w.jobs.isFilledMapping = false := by
      cases h : w.jobs with
      | mapping entries =>
          cases entries with
          | nil => rfl
          | cons e entries => exact absurd h (hjobs e entries)
      | _ => rfl
    rw [hnone]
    exact .error _ _

theorem BuildJob.appends_emitVersion (p : Policy) (s : Step) :
    (emitVersion p s).Appends (checkVersion p s) := by
  unfold emitVersion checkVersion
  cases Text.contains s.uses setupJava with
  | false =>
      exact .pure
  | true =>
      exact .when _ (.warning _ _)

theorem BuildJob.appends (w : Workflow) (p : Policy) : (emit w p).Appends (check w p) := by
  unfold emit check
  cases w.job? job with
  | none =>
      exact .error _ _
  | some j =>
      simp only [checkJob, checkRunner, List.append_assoc]
      refine .bind (.when _ (.warning _ _)) ?_
      refine .bind (.when _ (.error _ _)) ?_
      refine .bind (.when _ (.error _ _)) ?_
      refine .bind (.forM (appends_emitVersion p) _) ?_
      refine .bind (.when _ (.error _ _)) ?_
      refine .bind (.when _ (.error _ _)) ?_
      exact .when _ (.error _ _)

theorem SmokeJob.appends (w : Workflow) (p : Policy) : (emit w p).Appends (check w p) := by
  unfold emit check
  cases w.job? job with
  | none =>
      exact .error _ _
  | some j =>
      simp only [checkJob, List.append_assoc]
      refine .bind (.when _ (.push _)) ?_
      refine .bind (.when _ (.error _ _)) ?_
      refine .bind (.when _ (.warning _ _)) ?_
      refine .bind (.when _ (.error _ _)) ?_
      refine .bind (.when _ (.error _ _)) ?_
      refine .bind (.when _ (.warning _ _)) ?_
      exact .when _ (.error _ _)

theorem RepoReferences.appends (w : Workflow) (p : Policy) :
    (emit w p).Appends (checkSource p w.source) := by
  rw [checkSource, ← flatMap_when]
  exact .forM (fun found => .when _ (.push _)) _

/-! ## Identifiers -/

/-- All findings carry an identifier. -/
def Findings.From (id : String) (f : Findings) : Prop :=
  ∀ d ∈ f, d.rule = id

namespace Findings.From

variable {id : String} {f g : Findings} {d : Diagnostic}

theorem singleton (h : d.rule = id) : From id [d] := by
  simpa [From] using h

theorem when (condition : Bool) (h : d.rule = id) : From id (Diagnostic.when condition d) := by
  cases condition <;> simp [From, Diagnostic.when, h]

theorem append (h : From id f) (h' : From id g) : From id (f ++ g) := by
  intro d hd
  rcases List.mem_append.1 hd with hd | hd
  · exact h d hd
  · exact h' d hd

theorem map {α : Type} {make : α → Diagnostic} (h : ∀ a, (make a).rule = id) (items : List α) :
    From id (items.map make) := by
  intro d hd
  rcases List.mem_map.1 hd with ⟨a, _, rfl⟩
  exact h a

theorem flatMap {α : Type} {find : α → Findings} (h : ∀ a, From id (find a)) (items : List α) :
    From id (items.flatMap find) := by
  intro d hd
  rcases List.mem_flatMap.1 hd with ⟨a, _, hd⟩
  exact h a d hd

end Findings.From

open Findings (From)

theorem DispatchTrigger.from_check (w : Workflow) : From id (check w) := by
  unfold check
  split
  · exact .singleton rfl
  · split
    · exact .singleton rfl
    · unfold checkInput
      split
      · exact .singleton rfl
      · exact .when _ rfl

theorem BuildJob.from_check (w : Workflow) (p : Policy) : From id (check w p) := by
  unfold check
  cases w.job? job with
  | none =>
      exact .singleton rfl
  | some j =>
      have hversion : ∀ s, From id (checkVersion p s) := fun s => .when _ rfl
      -- the findings about the job, from the last one to the first
      refine .append ?_ (.when _ rfl)
      refine .append ?_ (.when _ rfl)
      refine .append ?_ (.when _ rfl)
      refine .append ?_ (.flatMap hversion _)
      refine .append ?_ (.when _ rfl)
      refine .append ?_ (.when _ rfl)
      exact .when _ rfl

theorem SmokeJob.from_check (w : Workflow) (p : Policy) : From id (check w p) := by
  unfold check
  cases w.job? job with
  | none =>
      exact .singleton rfl
  | some j =>
      refine .append ?_ (.when _ rfl)
      refine .append ?_ (.when _ rfl)
      refine .append ?_ (.when _ rfl)
      refine .append ?_ (.when _ rfl)
      refine .append ?_ (.when _ rfl)
      refine .append ?_ (.when _ rfl)
      exact .when _ rfl

/-! ## Registries -/

namespace Findings

/-- Findings pass if all parts of them do. -/
theorem passed_append (f g : Findings) (strict : Bool) :
    passed (f ++ g) strict = (f.passed strict && g.passed strict) := by
  cases strict with
  | false =>
      simp [passed, hasErrors]
  | true =>
      cases f <;> rfl

end Findings

namespace Registry

/-- A rule under a new identifier comes last. -/
theorem register_of_not_mem {registry : Registry} {rule : Rule} (h : rule.id ∉ registry.ids) :
    register rule registry = registry ++ [rule] := by
  induction registry with
  | nil =>
      rfl
  | cons r registry ih =>
      rw [ids, List.map_cons, List.mem_cons, not_or] at h
      have hne : ¬ (r.id == rule.id) = true := by
        simpa using Ne.symm h.1
      rw [register, if_neg hne, ih h.2, List.cons_append]

/-- With one more rule under a new identifier, a run has the findings of that rule behind its
own. -/
theorem validateWith_register {registry : Registry} {rule : Rule} (h : rule.id ∉ registry.ids)
    (source : String) (p : Policy) :
    ∃ more, validateWith (register rule registry) source p =
      validateWith registry source p ++ more := by
  cases hparse : Workflow.parse source with
  | error cause =>
      exact ⟨[], by rw [validateWith_of_error hparse, validateWith_of_error hparse,
        List.append_nil]⟩
  | ok w =>
      refine ⟨rule.check w p, ?_⟩
      rw [validateWith_of_ok hparse, validateWith_of_ok hparse, register_of_not_mem h]
      simp [run]

end Registry

/-! ## Runs -/

namespace Checker

variable {w : Workflow} {p : Policy}

/-- Carried out on a sink, a rule adds what it finds by itself. -/
theorem appends (c : Checker) (w : Workflow) (p : Policy) :
    (c.emit w p).Appends (c.rule.check w p) := by
  cases c with
  | requiredKeys =>
      exact RequiredKeys.appends w
  | dispatchTrigger =>
      exact DispatchTrigger.appends w
  | permissionsDeclared =>
      exact PermissionsDeclared.appends w
  | jobsDefined =>
      exact JobsDefined.appends w
  | buildJob =>
      exact BuildJob.appends w p
  | smokeJob =>
      exact SmokeJob.appends w p
  | repoReferences =>
      exact RepoReferences.appends w p
  | standIn id findings =>
      have hpush : Appends (findings.forM Emission.push) (findings.flatMap fun d => [d]) :=
        .forM .push findings
      rw [List.flatMap_singleton'] at hpush
      exact hpush

/-- What a rule that is always there finds carries the identifier of that rule. -/
theorem from_check {c : Checker} (h : c.isBuiltin = true) (w : Workflow) (p : Policy) :
    From c.rule.id (c.rule.check w p) := by
  cases c with
  | requiredKeys =>
      have hmissing : ∀ key, (RequiredKeys.missing key).rule = RequiredKeys.id := fun _ => rfl
      exact From.map hmissing _
  | dispatchTrigger =>
      exact DispatchTrigger.from_check w
  | permissionsDeclared =>
      exact From.when _ rfl
  | jobsDefined =>
      exact From.when _ rfl
  | buildJob =>
      exact BuildJob.from_check w p
  | smokeJob =>
      exact SmokeJob.from_check w p
  | repoReferences =>
      have hincorrect : ∀ found, (RepoReferences.incorrect p.expectedRepo found).rule =
          RepoReferences.id := fun _ => rfl
      exact From.map hincorrect _
  | standIn id findings =>
      cases h

/-- Registering gives nothing but registries of checkers, so all that is said of these holds of
whatever has been registered. -/
theorem exists_registerAll_eq (further checkers : List Checker) :
    ∃ registered, (registry checkers).registerAll (registry further) = registry registered := by
  have hone : ∀ (c : Checker) (checkers : List Checker),
      ∃ registered, Registry.register c.rule (registry checkers) = registry registered := by
    intro c checkers
    induction checkers with
    | nil =>
        exact ⟨[c], rfl⟩
    | cons c' checkers ih =>
        rcases ih with ⟨registered, hregistered⟩
        by_cases hid : c'.rule.id = c.rule.id
        · exact ⟨c :: checkers, by simp [registry, Registry.register, hid]⟩
        · refine ⟨c' :: registered, ?_⟩
          rw [registry] at hregistered
          simp [registry, Registry.register, hid, hregistered]
  induction further generalizing checkers with
  | nil =>
      exact ⟨checkers, rfl⟩
  | cons c further ih =>
      rcases hone c checkers with ⟨registered, hregistered⟩
      rcases ih registered with ⟨all, hall⟩
      refine ⟨all, ?_⟩
      rw [← hall, ← hregistered]
      rfl

/-- A run adds what its rules find, each by itself, in order. -/
theorem appends_emitAll (checkers : List Checker) (w : Workflow) (p : Policy) :
    (emitAll checkers w p).Appends (checkers.flatMap fun c => (c.emit w p).alone) := by
  refine .forM (fun c => ?_) checkers
  rw [(c.appends w p).alone_eq]
  exact c.appends w p

/-- Carrying rules out on one sink comes to the same as putting their findings together. -/
theorem validate_eq_validateWith (checkers : List Checker) (source : String) (p : Policy) :
    validate checkers source p = validateWith (registry checkers) source p := by
  unfold validate
  cases hparse : Workflow.parse source with
  | error cause =>
      rw [validateWith_of_error hparse]
      exact (Appends.error _ _).alone_eq
  | ok w =>
      have halone : ∀ c : Checker, (c.emit w p).alone = c.rule.check w p := fun c =>
        (c.appends w p).alone_eq
      rw [validateWith_of_ok hparse, Registry.run, registry, List.flatMap_map]
      simp only [(appends_emitAll checkers w p).alone_eq, halone]

/-- A text that is no workflow has one finding, whatever the rules. For a workflow, the findings
are those of the rules, each carried out alone, one after another: on any sink, a rule leaves what
is in it and adds what it adds alone, and the rules that are always there add findings under their
own identifiers only. So a rule under a new identifier turns no failing run into a passing one. -/
theorem validateWith_eq_concat (checkers : List Checker) (source : String) (p : Policy) :
    validate checkers source p = validateWith (registry checkers) source p ∧
    (∀ cause, Workflow.parse source = .error cause →
      validateWith (registry checkers) source p =
        [⟨"workflow-syntax", .error, cause.message, none⟩]) ∧
    (∀ w, Workflow.parse source = .ok w →
      validateWith (registry checkers) source p =
        checkers.flatMap fun c => (c.emit w p).alone) ∧
    (∀ w (c : Checker) (sink : Findings),
      (c.emit w p).after sink = sink ++ (c.emit w p).alone ∧
        (c.isBuiltin = true → ∀ d ∈ (c.emit w p).alone, d.rule = c.rule.id)) ∧
    ∀ (further : Rule) (strict : Bool), further.id ∉ (registry checkers).ids →
      (validateWith (registry checkers) source p).passed strict = false →
        (validateWith (Registry.register further (registry checkers)) source p).passed strict =
          false := by
  refine ⟨validate_eq_validateWith checkers source p, ?_, ?_, ?_, ?_⟩
  · intro cause hparse
    exact validateWith_of_error hparse
  · intro w hparse
    rw [← validate_eq_validateWith, validate, hparse]
    exact (appends_emitAll checkers w p).alone_eq
  · intro w c sink
    have happends := c.appends w p
    rw [happends.alone_eq]
    refine ⟨happends.after_eq sink, ?_⟩
    intro hbuiltin
    exact from_check hbuiltin w p
  · intro further strict hnew hfails
    rcases Registry.validateWith_register hnew source p with ⟨more, hmore⟩
    rw [hmore, Findings.passed_append, hfails, Bool.false_and]

end Checker

end WorkflowLint
