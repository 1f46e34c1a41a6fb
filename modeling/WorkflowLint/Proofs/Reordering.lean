import Mathlib.Data.List.Forall2
import WorkflowLint.Proofs.Trigger

/-!
# Reordering — the order of the entries of mappings does not matter

Two values are equal up to the order of entries (`Value.Reordered`) if one becomes the other when
the entries of mappings are permuted, at any depth; items keep their order, keys and tags stay as
they are, and the keys of each mapping differ. Such mappings bind the same keys to values of this
kind (`Entries.BindAlike`), and renaming the key of the triggers keeps that up. So what is seen
under a key or at an index is again equal up to the order of entries (`View.Reordered`).

The order does show in one place, the text of a mapping. Rules render the runner of the build job,
its versions of the JDK, and what steps use and run; if these are absent, scalars or sequences of
scalars (`Workflow.RendersFlat`), then all rules that look at the root find the same
(`Entries.findings_eq_of_reordered`). What the smoke job needs is compared with a name only, so
nothing is asked of it.
-/

namespace WorkflowLint

open Yaml (Value)

/-! ## Values up to the order of entries -/

/-- Two values are equal up to the order of the entries of mappings. -/
inductive Yaml.Value.Reordered : Value → Value → Prop
  | null : Reordered .null .null
  | bool (b : Bool) : Reordered (.bool b) (.bool b)
  | number (n : Yaml.Number) : Reordered (.number n) (.number n)
  | string (s : String) : Reordered (.string s) (.string s)
  | sequence {items items' : List Value} (each : List.Forall₂ Reordered items items') :
      Reordered (.sequence items) (.sequence items')
  /-- First the entries are permuted, then their values replaced. -/
  | mapping {entries moved entries' : List (Value × Value)}
      (distinct : (entries.map Prod.fst).Nodup) (perm : entries.Perm moved)
      (keys : moved.map Prod.fst = entries'.map Prod.fst)
      (values : List.Forall₂ Reordered (moved.map Prod.snd) (entries'.map Prod.snd)) :
      Reordered (.mapping entries) (.mapping entries')
  | tagged (tag : String) {v v' : Value} (below : Reordered v v') :
      Reordered (.tagged tag v) (.tagged tag v')

/-- In lists that are related item by item, each member of one is related to a member of the
other. -/
theorem exists_mem_of_forall₂ {α β : Type} {R : α → β → Prop} {as : List α} {bs : List β}
    (h : List.Forall₂ R as bs) : (∀ a ∈ as, ∃ b ∈ bs, R a b) ∧ ∀ b ∈ bs, ∃ a ∈ as, R a b := by
  induction h with
  | nil =>
      exact ⟨nofun, nofun⟩
  | @cons a b as bs hab _ ih =>
      constructor
      · refine List.forall_mem_cons.2 ⟨⟨b, List.mem_cons_self, hab⟩, ?_⟩
        intro a' ha'
        rcases ih.1 a' ha' with ⟨b', hb', hab'⟩
        exact ⟨b', List.mem_cons_of_mem b hb', hab'⟩
      · refine List.forall_mem_cons.2 ⟨⟨a, List.mem_cons_self, hab⟩, ?_⟩
        intro b' hb'
        rcases ih.2 b' hb' with ⟨a', ha', hab'⟩
        exact ⟨a', List.mem_cons_of_mem a ha', hab'⟩

/-- A function that agrees on related members is the same on both lists. -/
theorem map_eq_of_forall₂ {α β γ : Type} {R : α → β → Prop} {f : α → γ} {g : β → γ} {as : List α}
    {bs : List β} (h : List.Forall₂ R as bs) (hagree : ∀ a ∈ as, ∀ b, R a b → f a = g b) :
    as.map f = bs.map g := by
  induction h with
  | nil =>
      rfl
  | cons hab _ ih =>
      rw [List.forall_mem_cons] at hagree
      rw [List.map_cons, List.map_cons, hagree.1 _ hab, ih hagree.2]

/-- A test of what a function gives only sees the list of what it gives. -/
theorem any_eq_of_map_eq {α β : Type} {f : α → β} {as bs : List α} (h : as.map f = bs.map f)
    (test : β → Bool) : (as.any fun a => test (f a)) = bs.any fun b => test (f b) := by
  have hany : ∀ cs : List α, (cs.any fun c => test (f c)) = (cs.map f).any test := by
    intro cs
    rw [List.any_map]
    rfl
  rw [hany, hany, h]

/-- Two mappings bind the same keys, to values that are related. -/
structure Entries.BindAlike (R : Value → Value → Prop) (m m' : Entries) : Prop where
  distinct : (m.map Prod.fst).Nodup
  distinct' : (m'.map Prod.fst).Nodup
  forth : ∀ k v, (k, v) ∈ m → ∃ v', (k, v') ∈ m' ∧ R v v'
  back : ∀ k v', (k, v') ∈ m' → ∃ v, (k, v) ∈ m ∧ R v v'

namespace Entries.BindAlike

variable {R : Value → Value → Prop} {m m' : Entries}

theorem symm (h : BindAlike R m m') : BindAlike (flip R) m' m :=
  ⟨h.distinct', h.distinct, h.back, h.forth⟩

theorem of_reordered (h : Value.Reordered (.mapping m) (.mapping m')) :
    BindAlike Value.Reordered m m' := by
  cases h with
  | @mapping _ moved _ distinct perm keys values =>
      have hkeys : List.Forall₂ (fun e e' : Value × Value => e.1 = e'.1) moved m' := by
        rw [← List.forall₂_map_right_iff, ← List.forall₂_map_left_iff, List.forall₂_eq_eq_eq]
        exact keys
      have hvalues : List.Forall₂ (fun e e' : Value × Value => e.2.Reordered e'.2) moved m' := by
        rw [← List.forall₂_map_right_iff, ← List.forall₂_map_left_iff]
        exact values
      have hmembers := exists_mem_of_forall₂
        (List.Forall₂.mp (fun _ _ hkey hvalue => And.intro hkey hvalue) hkeys hvalues)
      refine ⟨distinct, ?_, ?_, ?_⟩
      · rw [← keys]
        exact (perm.map Prod.fst).nodup_iff.1 distinct
      · intro k v hmem
        rcases hmembers.1 _ (perm.mem_iff.1 hmem) with ⟨⟨k', v'⟩, hmem', rfl, hv⟩
        exact ⟨v', hmem', hv⟩
      · intro k v' hmem'
        rcases hmembers.2 _ hmem' with ⟨⟨k', v⟩, hmem, rfl, hv⟩
        exact ⟨v, perm.mem_iff.2 hmem, hv⟩

theorem mem_keys (h : BindAlike R m m') {k : Value} (hk : k ∈ m.map Prod.fst) :
    k ∈ m'.map Prod.fst := by
  rcases List.mem_map.1 hk with ⟨⟨k, v⟩, hmem, rfl⟩
  rcases h.forth k v hmem with ⟨v', hmem', _⟩
  exact List.mem_map.2 ⟨(k, v'), hmem', rfl⟩

theorem eq_nil (h : BindAlike R m m') (hm : m = []) : m' = [] := by
  rw [List.eq_nil_iff_forall_not_mem]
  intro e he
  have hkey := h.symm.mem_keys (List.mem_map_of_mem he)
  rw [hm] at hkey
  cases hkey

theorem isEmpty_eq (h : BindAlike R m m') : m.isEmpty = m'.isEmpty := by
  rw [Bool.eq_iff_iff, List.isEmpty_iff, List.isEmpty_iff]
  exact ⟨h.eq_nil, h.symm.eq_nil⟩

/-- A key is bound in both mappings or in neither. -/
theorem lookup (h : BindAlike R m m') (key : String) :
    View.lookup key m = none ∧ View.lookup key m' = none ∨
      ∃ v v', View.lookup key m = some v ∧ View.lookup key m' = some v' ∧ R v v' := by
  have hfound := View.lookup_eq_some_iff h.distinct key
  have hfound' := View.lookup_eq_some_iff h.distinct' key
  cases hlookup : View.lookup key m with
  | some v =>
      rcases h.forth _ v ((hfound v).1 hlookup) with ⟨v', hv', hreordered⟩
      exact .inr ⟨v, v', rfl, (hfound' v').2 hv', hreordered⟩
  | none =>
      refine .inl ⟨rfl, ?_⟩
      cases hlookup' : View.lookup key m' with
      | none =>
          rfl
      | some v' =>
          -- what is bound in the second mapping is bound in the first
          rcases h.back _ v' ((hfound' v').1 hlookup') with ⟨v, hv, _⟩
          rw [(hfound v).2 hv] at hlookup
          cases hlookup

/-! ### Renaming the key of the triggers -/

theorem forth_normalizeTrigger (h : BindAlike R m m') {k v : Value}
    (hmem : (k, v) ∈ m.normalizeTrigger) : ∃ v', (k, v') ∈ m'.normalizeTrigger ∧ R v v' := by
  by_cases hon : k = .string triggerKey
  · subst hon
    simp only [trigger_mem_normalizeTrigger_iff h.distinct']
    rcases (trigger_mem_normalizeTrigger_iff h.distinct v).1 hmem with hmem | ⟨hplain, hmem⟩
    · rcases h.forth _ v hmem with ⟨v', hmem', hv⟩
      exact ⟨v', .inl hmem', hv⟩
    · rcases h.forth _ v hmem with ⟨v', hmem', hv⟩
      exact ⟨v', .inr ⟨fun htrue => hplain (h.symm.mem_keys htrue), hmem'⟩, hv⟩
  · have htrue : k ≠ .bool true := by
      rintro rfl
      exact true_not_mem_normalizeTrigger h.distinct (List.mem_map_of_mem hmem)
    rcases h.forth k v ((mem_normalizeTrigger_iff h.distinct htrue hon v).1 hmem) with
      ⟨v', hmem', hv⟩
    exact ⟨v', (mem_normalizeTrigger_iff h.distinct' htrue hon v').2 hmem', hv⟩

/-- Renaming the key moves other entries, but what is bound stays alike. -/
theorem normalizeTrigger (h : BindAlike R m m') :
    BindAlike R m.normalizeTrigger m'.normalizeTrigger where
  distinct := pairwise_keys_normalizeTrigger Ne.symm (fun _ hk => hk) h.distinct h.distinct
  distinct' := pairwise_keys_normalizeTrigger Ne.symm (fun _ hk => hk) h.distinct' h.distinct'
  forth := fun _ _ => h.forth_normalizeTrigger
  back := fun _ _ => h.symm.forth_normalizeTrigger

end Entries.BindAlike

/-! ## Views -/

namespace View

/-- Two views are equal up to the order of entries. -/
inductive Reordered : View → View → Prop
  | same (v : View) : Reordered v v
  | sequence {items items' : List Value} (each : List.Forall₂ Value.Reordered items items') :
      Reordered (.sequence items) (.sequence items')
  | mapping {entries entries' : Entries}
      (alike : Entries.BindAlike Value.Reordered entries entries') :
      Reordered (.mapping entries) (.mapping entries')

theorem reordered_ofValue {v v' : Value} (h : v.Reordered v') :
    Reordered (ofValue v) (ofValue v') := by
  cases h with
  | sequence each =>
      exact .sequence each
  | mapping distinct perm keys values =>
      exact .mapping (.of_reordered (.mapping distinct perm keys values))
  | tagged tag below =>
      simpa only [ofValue] using reordered_ofValue below
  | _ =>
      exact .same _

namespace Reordered

variable {v v' : View}

theorem get (h : Reordered v v') (key : String) : Reordered (v.get key) (v'.get key) := by
  cases h with
  | same =>
      exact .same _
  | sequence each =>
      exact .same _
  | mapping alike =>
      rcases alike.lookup key with ⟨hnone, hnone'⟩ | ⟨u, u', hu, hu', hreordered⟩
      · rw [View.get, View.get, hnone, hnone']
        exact .same _
      · rw [View.get, View.get, hu, hu']
        exact reordered_ofValue hreordered

theorem items (h : Reordered v v') : List.Forall₂ Reordered v.items v'.items := by
  cases h with
  | same =>
      exact List.forall₂_same.2 fun u _ => .same u
  | sequence each =>
      rw [View.items, View.items, List.forall₂_map_left_iff, List.forall₂_map_right_iff]
      exact each.imp fun _ _ => reordered_ofValue
  | mapping alike =>
      exact .nil

theorem isAbsent_eq (h : Reordered v v') : v.isAbsent = v'.isAbsent := by
  cases h <;> rfl

theorem string?_eq (h : Reordered v v') : v.string? = v'.string? := by
  cases h <;> rfl

theorem isFilledMapping_eq (h : Reordered v v') : v.isFilledMapping = v'.isFilledMapping := by
  cases h with
  | mapping alike =>
      rw [isFilledMapping, isFilledMapping, alike.isEmpty_eq]
  | _ =>
      rfl

end Reordered

/-! ### Flat views -/

/-- A value that is no collection. -/
def isScalar : View → Bool
  | .mapping _ | .sequence _ | .absent => false
  | _ => true

/-- A scalar, a sequence of scalars, or nothing. -/
def isFlat : View → Bool
  | .mapping _ => false
  | .sequence items => items.all fun item => (ofValue item).isScalar
  | _ => true

namespace Reordered

variable {v v' : View}

theorem eq_of_isScalar (h : Reordered v v') (hv : v.isScalar = true) : v = v' := by
  cases h with
  | same =>
      rfl
  | _ =>
      cases hv

/-- The text of a flat view shows no entries, and so no order. -/
theorem text_eq (h : Reordered v v') (hv : v.isFlat = true) : v.text = v'.text := by
  cases h with
  | same =>
      rfl
  | @sequence items items' each =>
      have htexts : textsOfItems items = textsOfItems items' := by
        rw [textsOfItems_eq_map, textsOfItems_eq_map]
        refine map_eq_of_forall₂ each ?_
        intro item hmem item' hitem
        have hscalar := List.all_eq_true.1 hv item hmem
        rw [(reordered_ofValue hitem).eq_of_isScalar hscalar]
      rw [text, text, textOfValue, textOfValue, htexts]
  | mapping alike =>
      cases hv

end Reordered

end View

/-! ## Jobs and steps -/

namespace Job

variable {j j' : Job}

theorem reordered_steps (h : View.Reordered j.view j'.view) :
    List.Forall₂ (fun s s' : Step => View.Reordered s.view s'.view) j.steps j'.steps := by
  rw [steps, steps, List.forall₂_map_left_iff, List.forall₂_map_right_iff]
  exact (h.get "steps").items

theorem usesAction_eq (h : j.steps.map Step.uses = j'.steps.map Step.uses) (name : String) :
    j.usesAction name = j'.usesAction name :=
  any_eq_of_map_eq h fun text => Text.contains text name

theorem runsCommand_eq (h : j.steps.map Step.run = j'.steps.map Step.run) (token : String) :
    j.runsCommand token = j'.runsCommand token :=
  any_eq_of_map_eq h fun text => Text.contains text token

/-- What the steps of a job use and run is rendered flat. -/
def ScriptsFlat (j : Job) : Prop :=
  ∀ s ∈ j.steps, (s.view.get "uses").isFlat = true ∧ (s.view.get "run").isFlat = true

instance (j : Job) : Decidable j.ScriptsFlat :=
  inferInstanceAs (Decidable (∀ s ∈ j.steps, _))

theorem map_uses_eq (h : View.Reordered j.view j'.view) (hflat : j.ScriptsFlat) :
    j.steps.map Step.uses = j'.steps.map Step.uses := by
  refine map_eq_of_forall₂ (reordered_steps h) ?_
  intro s hs s' hreordered
  exact (hreordered.get "uses").text_eq (hflat s hs).1

theorem map_run_eq (h : View.Reordered j.view j'.view) (hflat : j.ScriptsFlat) :
    j.steps.map Step.run = j'.steps.map Step.run := by
  refine map_eq_of_forall₂ (reordered_steps h) ?_
  intro s hs s' hreordered
  exact (hreordered.get "run").text_eq (hflat s hs).2

end Job

/-! ## Rules -/

namespace Workflow

/-- What is under each key of the roots is equal up to the order of entries. -/
def SectionsReordered (w w' : Workflow) : Prop :=
  ∀ key, View.Reordered (w.get key) (w'.get key)

/-- What rules render of the jobs `build` and `smoke` is absent, a scalar or a sequence of
scalars. -/
structure RendersFlat (w : Workflow) : Prop where
  runner : ∀ j ∈ w.job? "build", j.runsOn.isFlat = true
  versions : ∀ j ∈ w.job? "build", ∀ s ∈ j.steps, (s.param "java-version").isFlat = true
  build : ∀ j ∈ w.job? "build", j.ScriptsFlat
  smoke : ∀ j ∈ w.job? "smoke", j.ScriptsFlat

variable {w w' : Workflow}

theorem sectionsReordered_of_bindAlike
    (h : Entries.BindAlike Value.Reordered w.entries w'.entries) : w.SectionsReordered w' := by
  intro key
  exact View.Reordered.get (.mapping h) key

/-- A job is found in both workflows or in neither. -/
theorem SectionsReordered.job? (h : w.SectionsReordered w') (name : String) :
    w.job? name = none ∧ w'.job? name = none ∨
      ∃ j j', w.job? name = some j ∧ w'.job? name = some j' ∧
        View.Reordered j.view j'.view := by
  have hview : View.Reordered (w.jobs.get name) (w'.jobs.get name) := (h "jobs").get name
  have habsent := hview.isAbsent_eq
  have hfound : ∀ {w : Workflow}, (w.jobs.get name).isAbsent = false →
      w.job? name = some ⟨w.jobs.get name⟩ := by
    intro w hthere
    rw [Workflow.job?]
    cases hget : w.jobs.get name with
    | absent =>
        rw [hget] at hthere
        cases hthere
    | _ =>
        rfl
  cases hthere : (w.jobs.get name).isAbsent with
  | true =>
      have hnone := View.isAbsent_iff.1 hthere
      have hnone' := View.isAbsent_iff.1 (habsent.symm.trans hthere)
      rw [Workflow.job?, Workflow.job?, hnone, hnone']
      exact .inl ⟨rfl, rfl⟩
  | false =>
      exact .inr ⟨_, _, hfound hthere, hfound (habsent.symm.trans hthere), hview⟩

end Workflow

section

variable {w w' : Workflow}

theorem RequiredKeys.check_eq_of_reordered (h : w.SectionsReordered w') :
    check w = check w' := by
  have hcontains : ∀ key, w.root.contains key = w'.root.contains key := by
    intro key
    have habsent := (h key).isAbsent_eq
    rw [View.contains, View.contains]
    exact congrArg (!·) habsent
  simp only [check, hcontains]

theorem PermissionsDeclared.check_eq_of_reordered (h : w.SectionsReordered w') :
    check w = check w' := by
  have hundeclared : ∀ {v v' : View}, View.Reordered v v' → isUndeclared v = isUndeclared v' := by
    intro v v' hv
    cases hv with
    | mapping alike =>
        rw [isUndeclared, isUndeclared, alike.isEmpty_eq]
    | _ =>
        rfl
  rw [check, check, hundeclared (h "permissions")]

theorem JobsDefined.check_eq_of_reordered (h : w.SectionsReordered w') :
    check w = check w' := by
  rw [check, check, Workflow.jobs, Workflow.jobs, (h "jobs").isFilledMapping_eq]

namespace Dispatch

/-- The same trigger, with a value that is equal up to the order of entries. -/
inductive Reordered : Dispatch → Dispatch → Prop
  | same (d : Dispatch) : Reordered d d
  | declared {value value' : View} (below : View.Reordered value value') :
      Reordered (.declared value) (.declared value')

theorem find_mapping (entries : Entries) :
    find (.mapping entries) =
      if ((View.mapping entries).get key).isAbsent then .missing
      else .declared ((View.mapping entries).get key) := by
  rw [find]
  cases (View.mapping entries).get key <;> rfl

theorem reordered_find {triggers triggers' : View} (h : View.Reordered triggers triggers') :
    Reordered (find triggers) (find triggers') := by
  cases h with
  | same =>
      exact .same _
  | @sequence items items' each =>
      have hnames : (View.sequence items).items.map View.string? =
          (View.sequence items').items.map View.string? :=
        map_eq_of_forall₂ (View.Reordered.sequence each).items fun _ _ _ hv => hv.string?_eq
      rw [find, find, any_eq_of_map_eq hnames (· == some key)]
      exact .same _
  | @mapping entries entries' alike =>
      have hvalue := View.Reordered.get (.mapping alike) key
      rw [find_mapping, find_mapping, hvalue.isAbsent_eq]
      split
      · exact .same _
      · exact .declared hvalue

end Dispatch

namespace DispatchTrigger

theorem checkInput_eq_of_reordered {input input' : View} (h : View.Reordered input input') :
    checkInput input = checkInput input' := by
  rw [checkInput, checkInput, h.isAbsent_eq, (h.get "type").string?_eq]

theorem check_eq_of_reordered (h : w.SectionsReordered w') : check w = check w' := by
  have htrigger := Dispatch.reordered_find (h "on")
  rw [check, check]
  generalize Dispatch.find (w.get "on") = d at htrigger ⊢
  generalize Dispatch.find (w'.get "on") = d' at htrigger ⊢
  cases htrigger with
  | same =>
      rfl
  | declared below =>
      have hinput := checkInput_eq_of_reordered ((below.get "inputs").get "ref")
      simp only [Dispatch.body?, below.isFilledMapping_eq]
      cases View.isFilledMapping _ with
      | true =>
          exact hinput
      | false =>
          rfl

end DispatchTrigger

namespace BuildJob

variable {j j' : Job}

theorem checkJob_eq_of_reordered (p : Policy) (h : View.Reordered j.view j'.view)
    (hrunner : j.runsOn.isFlat = true) (hscripts : j.ScriptsFlat)
    (hversions : ∀ s ∈ j.steps, (s.param "java-version").isFlat = true) :
    checkJob p j = checkJob p j' := by
  have huses := Job.map_uses_eq h hscripts
  have hrun := Job.map_run_eq h hscripts
  have hrunsOn : checkRunner p j = checkRunner p j' := by
    have htext : j.runsOn.text = j'.runsOn.text := (h.get "runs-on").text_eq hrunner
    rw [checkRunner, checkRunner, htext]
  have hjdks : j.steps.flatMap (checkVersion p) = j'.steps.flatMap (checkVersion p) := by
    rw [List.flatMap_def, List.flatMap_def]
    refine congrArg List.flatten (map_eq_of_forall₂ (Job.reordered_steps h) ?_)
    intro s hs s' hstep
    have hname : s.uses = s'.uses := (hstep.get "uses").text_eq (hscripts s hs).1
    have hversion : (s.param "java-version").text = (s'.param "java-version").text :=
      ((hstep.get "with").get "java-version").text_eq (hversions s hs)
    rw [checkVersion, checkVersion, hname, hversion]
  have hgradle : usesGradle j = usesGradle j' :=
    any_eq_of_map_eq huses fun text => Text.contains (Text.lowerLetters text) "gradle"
  simp only [checkJob, hrunsOn, hjdks, hgradle, Job.usesAction_eq huses, Job.runsCommand_eq hrun]

theorem check_eq_of_reordered (p : Policy) (h : w.SectionsReordered w') (hflat : w.RendersFlat) :
    check w p = check w' p := by
  rw [check, check]
  rcases h.job? job with ⟨hnone, hnone'⟩ | ⟨j, j', hj, hj', hview⟩
  · rw [hnone, hnone']
  · rw [hj, hj']
    exact checkJob_eq_of_reordered p hview (hflat.runner j hj) (hflat.build j hj)
      (hflat.versions j hj)

end BuildJob

namespace SmokeJob

variable {j j' : Job}

/-- Of what a job needs, only a name is looked for. -/
theorem needs_contains_eq (h : View.Reordered j.view j'.view) :
    j.needs.contains BuildJob.job = j'.needs.contains BuildJob.job := by
  have hneeds := h.get "needs"
  have hitems : (j.view.get "needs").items.map View.string? =
      (j'.view.get "needs").items.map View.string? :=
    map_eq_of_forall₂ hneeds.items fun _ _ _ hv => hv.string?_eq
  have hmem : ∀ vs : List View,
      .string "build" ∈ vs ↔ some "build" ∈ vs.map View.string? := by
    intro vs
    simp only [List.mem_map, View.string?_eq_some_iff, exists_eq_right]
  rw [Bool.eq_iff_iff, needs_contains_build_iff, needs_contains_build_iff,
    ← View.string?_eq_some_iff, ← View.string?_eq_some_iff, hneeds.string?_eq, hmem, hmem, hitems]

theorem checkJob_eq_of_reordered (p : Policy) (h : View.Reordered j.view j'.view)
    (hscripts : j.ScriptsFlat) : checkJob p j = checkJob p j' := by
  have huses := Job.map_uses_eq h hscripts
  have hrun := Job.map_run_eq h hscripts
  have htext : j.runText = j'.runText := by
    rw [Job.runText, Job.runText, hrun]
  simp only [checkJob, needs_contains_eq h, htext, Job.usesAction_eq huses,
    Job.runsCommand_eq hrun]

theorem check_eq_of_reordered (p : Policy) (h : w.SectionsReordered w') (hflat : w.RendersFlat) :
    check w p = check w' p := by
  rw [check, check]
  rcases h.job? job with ⟨hnone, hnone'⟩ | ⟨j, j', hj, hj', hview⟩
  · rw [hnone, hnone']
  · rw [hj, hj']
    exact checkJob_eq_of_reordered p hview (hflat.smoke j hj)

end SmokeJob

/-- A rule that looks at the root finds the same in both workflows. -/
theorem Registry.check_eq_of_reordered (h : w.SectionsReordered w') (hflat : w.RendersFlat)
    {r : Rule} (hr : r ∈ treeBased) (p : Policy) : r.check w p = r.check w' p := by
  simp only [treeBased, List.mem_cons, List.not_mem_nil, or_false] at hr
  rcases hr with rfl | rfl | rfl | rfl | rfl | rfl
  · exact RequiredKeys.check_eq_of_reordered h
  · exact DispatchTrigger.check_eq_of_reordered h
  · exact PermissionsDeclared.check_eq_of_reordered h
  · exact JobsDefined.check_eq_of_reordered h
  · exact BuildJob.check_eq_of_reordered p h hflat
  · exact SmokeJob.check_eq_of_reordered p h hflat

end

/-! ## Roots -/

namespace Entries

/-- Say that two mappings are equal up to the order of entries. As the roots of workflows that
render flat values, all rules that look at the root find the same in them. And so they do in all
texts that are read as these mappings, where the key of the triggers is renamed before, whichever of
these rules run and in whatever order. -/
theorem findings_eq_of_reordered {m m' : Entries}
    (h : Value.Reordered (.mapping m) (.mapping m')) (p : Policy) :
    (∀ renamed renamed' source source', Workflow.RendersFlat ⟨m, renamed, source⟩ →
      ∀ r ∈ Registry.treeBased,
        r.check ⟨m, renamed, source⟩ p = r.check ⟨m', renamed', source'⟩ p) ∧
    ∀ source source' w, Value.parse source = .ok (.mapping m) →
      Value.parse source' = .ok (.mapping m') →
      Workflow.parse source = .ok w → w.RendersFlat →
      ∀ registry : Registry, (∀ r ∈ registry, r ∈ Registry.treeBased) →
        validateWith registry source p = validateWith registry source' p := by
  have halike : BindAlike Value.Reordered m m' := .of_reordered h
  constructor
  · intro renamed renamed' source source' hflat r hr
    have hsections : Workflow.SectionsReordered ⟨m, renamed, source⟩ ⟨m', renamed', source'⟩ :=
      Workflow.sectionsReordered_of_bindAlike halike
    exact Registry.check_eq_of_reordered hsections hflat hr p
  · intro source source' w hvalue hvalue' hparse hflat registry hrules
    have hparse' := Workflow.parse_eq_ok_iff.2
      ⟨Value.isBlankText_of_parse_mapping hvalue', m', hvalue', rfl⟩
    have hentries : w.entries = m.normalizeTrigger := by
      rcases Workflow.parse_eq_ok_iff.1 hparse with ⟨_, read, hread, rfl⟩
      -- reading has one result
      rw [hvalue] at hread
      cases hread
      rfl
    have hsections : w.SectionsReordered
        ⟨normalizeTrigger m', hasTrueKey m', source'⟩ := by
      apply Workflow.sectionsReordered_of_bindAlike
      rw [hentries]
      exact halike.normalizeTrigger
    rw [validateWith_of_ok hparse, validateWith_of_ok hparse', Registry.run, Registry.run]
    refine List.flatMap_congr ?_
    intro r hr
    exact Registry.check_eq_of_reordered hsections hflat (hrules r hr) p

/-! ### A workflow in another order -/

def sortedStep : Value :=
  .mapping [(.string "name", .string "Build"), (.string "run", .string "./gradlew")]

def shuffledStep : Value :=
  .mapping [(.string "run", .string "./gradlew"), (.string "name", .string "Build")]

def taggedRunner : Value :=
  .sequence [.tagged "os" (.string "ubuntu"), .string "self-hosted"]

/-- A workflow whose triggers come first. -/
def sortedEntries : Entries :=
  [(.bool true, .string "push"),
    (.string "jobs", .mapping [(.string "build", .mapping
      [(.string "runs-on", taggedRunner), (.string "steps", .sequence [sortedStep])])])]

/-- The same with other orders at three depths. -/
def shuffledEntries : Entries :=
  [(.string "jobs", .mapping [(.string "build", .mapping
      [(.string "steps", .sequence [shuffledStep]), (.string "runs-on", taggedRunner)])]),
    (.bool true, .string "push")]

theorem reordered_shuffledEntries :
    Value.Reordered (.mapping sortedEntries) (.mapping shuffledEntries) := by
  have hstep : Value.Reordered sortedStep shuffledStep :=
    .mapping (by decide) (.swap _ _ _) rfl (.cons (.string _) (.cons (.string _) .nil))
  have hrunner : Value.Reordered taggedRunner taggedRunner :=
    .sequence (.cons (.tagged _ (.string _)) (.cons (.string _) .nil))
  have hbuild : Value.Reordered
      (.mapping [(.string "runs-on", taggedRunner), (.string "steps", .sequence [sortedStep])])
      (.mapping [(.string "steps", .sequence [shuffledStep]), (.string "runs-on", taggedRunner)]) :=
    .mapping (by decide) (.swap _ _ _) rfl
      (.cons (.sequence (.cons hstep .nil)) (.cons hrunner .nil))
  have hjobs : Value.Reordered
      (.mapping [(.string "build", .mapping
        [(.string "runs-on", taggedRunner), (.string "steps", .sequence [sortedStep])])])
      (.mapping [(.string "build", .mapping
        [(.string "steps", .sequence [shuffledStep]), (.string "runs-on", taggedRunner)])]) :=
    .mapping (by decide) (.refl _) rfl (.cons hbuild .nil)
  exact .mapping (by decide) (.swap _ _ _) rfl (.cons hjobs (.cons (.string _) .nil))

theorem findings_eq_of_reordered_shuffledEntries :
    Value.Reordered (.mapping sortedEntries) (.mapping shuffledEntries) ∧
      Workflow.RendersFlat ⟨sortedEntries, true, ""⟩ ∧ sortedEntries ≠ shuffledEntries ∧
      ∀ r ∈ Registry.treeBased,
        r.check ⟨sortedEntries, true, ""⟩ .standard =
          r.check ⟨shuffledEntries, true, ""⟩ .standard := by
  have hflat : Workflow.RendersFlat ⟨sortedEntries, true, ""⟩ :=
    ⟨by decide, by decide, by decide, by decide⟩
  have hsame := findings_eq_of_reordered reordered_shuffledEntries .standard
  exact ⟨reordered_shuffledEntries, hflat, by decide, hsame.1 true true "" "" hflat⟩

/-- A mapping that is rendered shows the order of its entries. -/
example :
    BuildJob.checkRunner .standard
        ⟨.mapping [(.string "runs-on", .mapping
          [(.string "os", .string "mac"), (.string "size", .string "big")])]⟩ ≠
      BuildJob.checkRunner .standard
        ⟨.mapping [(.string "runs-on", .mapping
          [(.string "size", .string "big"), (.string "os", .string "mac")])]⟩ := by
  decide

end Entries

end WorkflowLint
