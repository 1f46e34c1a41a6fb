import WorkflowLint.Proofs.Trigger
import WorkflowLint.Proofs.Views.Text

/-!
# Tags — tags on values below the root do not matter

`Value.untagged` drops the tags of a value and of all values in it. Each way down from a view leads
to the same place with and without tags (`View.follow_untagged`), and nothing that is asked of a
view there depends on them (`View.Alike.of_untagged_eq`). So rules find the same in a workflow as in
the workflow without tags (`Registry.check_untagged`), and two roots that differ in tags only are
seen alike, wherever the tags are and however many (`Entries.SameButTags.seenAlike`). The tags of
keys stay, because under a tag a string is another key.
-/

namespace WorkflowLint

open Yaml (Value)

/-! ## Dropping tags -/

namespace Yaml.Value

mutual

/-- The value without tags. -/
def untagged : Value → Value
  | .sequence items => .sequence (untaggedItems items)
  | .mapping entries => .mapping (untaggedEntries entries)
  | .tagged _ v => untagged v
  | v => v

/-- The key without the tags of the values in it. The tags it stands under itself stay, as they
tell it apart from other keys. -/
def untaggedKey : Value → Value
  | .sequence items => .sequence (untaggedItems items)
  | .mapping entries => .mapping (untaggedEntries entries)
  | .tagged tag k => .tagged tag (untaggedKey k)
  | k => k

def untaggedItems : List Value → List Value
  | [] => []
  | v :: rest => untagged v :: untaggedItems rest

def untaggedEntries : List (Value × Value) → List (Value × Value)
  | [] => []
  | (k, v) :: rest => (untaggedKey k, untagged v) :: untaggedEntries rest

end

theorem untaggedItems_eq_map (items : List Value) : untaggedItems items = items.map untagged := by
  induction items with
  | nil =>
      rfl
  | cons v items ih =>
      rw [untaggedItems, ih, List.map_cons]

theorem untaggedEntries_eq_map (entries : List (Value × Value)) :
    untaggedEntries entries = entries.map fun e => (untaggedKey e.1, e.2.untagged) := by
  induction entries with
  | nil =>
      rfl
  | cons e entries ih =>
      rw [untaggedEntries, ih, List.map_cons]

end Yaml.Value

/-! ## Views -/

namespace View

open Yaml.Value

/-- The view without the tags of the values in it. -/
def untagged : View → View
  | .mapping entries => .mapping (untaggedEntries entries)
  | .sequence items => .sequence (untaggedItems items)
  | v => v

theorem ofValue_untagged (v : Value) : ofValue v.untagged = (ofValue v).untagged := by
  cases v with
  | tagged _ v =>
      simpa only [ofValue, Value.untagged] using ofValue_untagged v
  | _ =>
      simp only [ofValue, Value.untagged, untagged]

theorem lookup_untagged (key : String) (entries : List (Value × Value)) :
    lookup key (untaggedEntries entries) = (lookup key entries).map Value.untagged := by
  induction entries with
  | nil =>
      rfl
  | cons e entries ih =>
      rcases e with ⟨k, v⟩
      cases k with
      | string k =>
          by_cases hk : k = key
          · simp [untaggedEntries, untaggedKey, lookup, hk]
          · simp [untaggedEntries, untaggedKey, lookup, hk, ih]
      | _ =>
          -- dropping tags does not make a string of another key
          simpa only [untaggedEntries, untaggedKey, lookup] using ih

@[simp]
theorem get_untagged (v : View) (key : String) : v.untagged.get key = (v.get key).untagged := by
  cases v with
  | mapping entries =>
      cases hlookup : lookup key entries with
      | none =>
          simp [untagged, get, lookup_untagged, hlookup]
      | some value =>
          simp [untagged, get, lookup_untagged, hlookup, ofValue_untagged]
  | _ =>
      rfl

@[simp]
theorem items_untagged (v : View) : v.untagged.items = v.items.map untagged := by
  cases v with
  | sequence items =>
      have hitems : ∀ v ∈ items, ofValue v.untagged = (ofValue v).untagged := by
        intro v _
        exact ofValue_untagged v
      simp only [untagged, View.items, untaggedItems_eq_map, List.map_map]
      exact List.map_congr_left hitems
  | _ =>
      rfl

@[simp]
theorem isAbsent_untagged (v : View) : v.untagged.isAbsent = v.isAbsent := by
  cases v <;> rfl

@[simp]
theorem isNull_untagged (v : View) : v.untagged.isNull = v.isNull := by
  cases v <;> rfl

@[simp]
theorem string?_untagged (v : View) : v.untagged.string? = v.string? := by
  cases v <;> rfl

@[simp]
theorem kind_untagged (v : View) : v.untagged.kind = v.kind := by
  cases v <;> rfl

@[simp]
theorem isFilledMapping_untagged (v : View) : v.untagged.isFilledMapping = v.isFilledMapping := by
  cases v with
  | mapping entries =>
      simp only [untagged, isFilledMapping, untaggedEntries_eq_map, List.isEmpty_map]
  | _ =>
      rfl

@[simp]
theorem contains_untagged (v : View) (key : String) : v.untagged.contains key = v.contains key := by
  simp only [contains, get_untagged, isAbsent_untagged]

/-! ### Texts -/

mutual

theorem textOfValue_untagged (v : Value) : textOfValue v.untagged = textOfValue v := by
  cases v with
  | sequence items =>
      simp only [Value.untagged, textOfValue, textsOfItems_untagged items]
  | mapping entries =>
      simp only [Value.untagged, textOfValue, textsOfEntries_untagged entries]
  | tagged _ v =>
      simpa only [Value.untagged, textOfValue] using textOfValue_untagged v
  | _ =>
      simp only [Value.untagged]

/-- The text of a key does not show the tags that tell it apart. -/
theorem textOfValue_untaggedKey (k : Value) : textOfValue (untaggedKey k) = textOfValue k := by
  cases k with
  | sequence items =>
      simp only [untaggedKey, textOfValue, textsOfItems_untagged items]
  | mapping entries =>
      simp only [untaggedKey, textOfValue, textsOfEntries_untagged entries]
  | tagged _ k =>
      simpa only [untaggedKey, textOfValue] using textOfValue_untaggedKey k
  | _ =>
      simp only [untaggedKey]

theorem textsOfItems_untagged (items : List Value) :
    textsOfItems (untaggedItems items) = textsOfItems items := by
  cases items with
  | nil =>
      rfl
  | cons v items =>
      rw [untaggedItems, textsOfItems, textsOfItems, textOfValue_untagged v,
        textsOfItems_untagged items]

theorem textsOfEntries_untagged (entries : List (Value × Value)) :
    textsOfEntries (untaggedEntries entries) = textsOfEntries entries := by
  cases entries with
  | nil =>
      rfl
  | cons e entries =>
      rcases e with ⟨k, v⟩
      rw [untaggedEntries, textsOfEntries, textsOfEntries, textOfValue_untaggedKey k,
        textOfValue_untagged v, textsOfEntries_untagged entries]

end

@[simp]
theorem text_untagged (v : View) : v.untagged.text = v.text := by
  cases v with
  | mapping entries =>
      simp only [untagged, text, textOfValue, textsOfEntries_untagged]
  | sequence items =>
      simp only [untagged, text, textOfValue, textsOfItems_untagged]
  | _ =>
      rfl

@[simp]
theorem strings_untagged (v : View) : v.untagged.strings = v.strings := by
  cases v with
  | sequence items =>
      simp only [untagged, strings, textsOfItems_untagged]
  | _ =>
      rfl

/-! ### Places -/

/-- One step down from a view. -/
inductive Hop
  | key (name : String)
  | item (index : Nat)

/-- The view at the end of a path; where there is nothing, it is absent. -/
def follow : View → List Hop → View
  | v, [] => v
  | v, .key name :: path => follow (v.get name) path
  | v, .item index :: path => follow (v.items[index]?.getD .absent) path

theorem follow_untagged (v : View) (path : List Hop) :
    v.untagged.follow path = (v.follow path).untagged := by
  induction path generalizing v with
  | nil =>
      rfl
  | cons hop path ih =>
      cases hop with
      | key name =>
          rw [follow, follow, get_untagged, ih]
      | item index =>
          have hitem : v.untagged.items[index]?.getD .absent =
              (v.items[index]?.getD .absent).untagged := by
            rw [items_untagged, List.getElem?_map]
            cases v.items[index]? <;> rfl
          rw [follow, follow, hitem, ih]

/-- Two views answer alike to whatever is asked of a view by itself. -/
structure Alike (v v' : View) : Prop where
  kind : v.kind = v'.kind
  string? : v.string? = v'.string?
  text : v.text = v'.text
  strings : v.strings = v'.strings
  isNull : v.isNull = v'.isNull
  count : v.items.length = v'.items.length

theorem Alike.of_untagged_eq {v v' : View} (h : v.untagged = v'.untagged) : v.Alike v' where
  kind := by rw [← kind_untagged, h, kind_untagged]
  string? := by rw [← string?_untagged, h, string?_untagged]
  text := by rw [← text_untagged, h, text_untagged]
  strings := by rw [← strings_untagged, h, strings_untagged]
  isNull := by rw [← isNull_untagged, h, isNull_untagged]
  count := by
    have hitems := congrArg (fun v => v.items.length) h
    simpa only [items_untagged, List.length_map] using hitems

end View

/-! ## Jobs and steps -/

namespace Step

/-- The step without tags. -/
def untagged (s : Step) : Step :=
  ⟨s.view.untagged⟩

@[simp]
theorem uses_untagged (s : Step) : s.untagged.uses = s.uses := by
  simp [uses, untagged]

@[simp]
theorem run_untagged (s : Step) : s.untagged.run = s.run := by
  simp [run, untagged]

@[simp]
theorem param_untagged (s : Step) (name : String) :
    s.untagged.param name = (s.param name).untagged := by
  simp [param, untagged]

end Step

namespace Job

/-- The job without tags. -/
def untagged (j : Job) : Job :=
  ⟨j.view.untagged⟩

@[simp]
theorem runsOn_untagged (j : Job) : j.untagged.runsOn = j.runsOn.untagged := by
  simp [runsOn, untagged]

@[simp]
theorem needs_untagged (j : Job) : j.untagged.needs = j.needs := by
  simp [needs, untagged]

@[simp]
theorem steps_untagged (j : Job) : j.untagged.steps = j.steps.map Step.untagged := by
  simp [steps, untagged, Step.untagged]

/-- What is asked of the steps one by one does not depend on the tags of the job. -/
theorem any_steps_untagged (j : Job) {ask : Step → Bool} (h : ∀ s, ask s.untagged = ask s) :
    j.untagged.steps.any ask = j.steps.any ask := by
  have hask : ask ∘ Step.untagged = ask := funext h
  rw [steps_untagged, List.any_map, hask]

@[simp]
theorem usesAction_untagged (j : Job) (name : String) :
    j.untagged.usesAction name = j.usesAction name :=
  j.any_steps_untagged fun s => by rw [s.uses_untagged]

@[simp]
theorem runsCommand_untagged (j : Job) (token : String) :
    j.untagged.runsCommand token = j.runsCommand token :=
  j.any_steps_untagged fun s => by rw [s.run_untagged]

@[simp]
theorem runText_untagged (j : Job) : j.untagged.runText = j.runText := by
  simp [runText, Function.comp_def]

end Job

/-! ## Rules -/

namespace Workflow

/-- The workflow without tags. -/
def untagged (w : Workflow) : Workflow :=
  { w with entries := Value.untaggedEntries w.entries }

@[simp]
theorem root_untagged (w : Workflow) : w.untagged.root = w.root.untagged :=
  rfl

@[simp]
theorem get_untagged (w : Workflow) (key : String) :
    w.untagged.get key = (w.get key).untagged := by
  simp [get]

@[simp]
theorem jobs_untagged (w : Workflow) : w.untagged.jobs = w.jobs.untagged := by
  simp [jobs]

theorem job?_untagged (w : Workflow) (name : String) :
    w.untagged.job? name = (w.job? name).map Job.untagged := by
  rw [job?, job?, jobs_untagged, View.get_untagged]
  cases w.jobs.get name <;> rfl

end Workflow

theorem RequiredKeys.check_untagged (w : Workflow) : check w.untagged = check w := by
  simp [check]

theorem PermissionsDeclared.check_untagged (w : Workflow) : check w.untagged = check w := by
  have hundeclared : ∀ v : View, isUndeclared v.untagged = isUndeclared v := by
    intro v
    cases v with
    | mapping entries =>
        simp only [View.untagged, isUndeclared, Value.untaggedEntries_eq_map, List.isEmpty_map]
    | _ =>
        rfl
  rw [check, check, w.get_untagged, hundeclared]

theorem JobsDefined.check_untagged (w : Workflow) : check w.untagged = check w := by
  simp [check]

namespace Dispatch

/-- The trigger without tags below it. -/
def untagged : Dispatch → Dispatch
  | .declared value => .declared value.untagged
  | d => d

theorem find_untagged (triggers : View) : find triggers.untagged = (find triggers).untagged := by
  cases triggers with
  | mapping entries =>
      -- what is under the key is absent in both or in neither
      have hget := View.get_untagged (.mapping entries) key
      rw [View.untagged] at hget ⊢
      rw [find, find, hget]
      cases (View.mapping entries).get key <;> rfl
  | sequence items =>
      have hitems := View.items_untagged (.sequence items)
      rw [View.untagged] at hitems ⊢
      rw [find, find, hitems, List.any_map]
      simp only [Function.comp_def, View.string?_untagged]
      split <;> rfl
  | string s =>
      simp only [View.untagged, find]
      split <;> rfl
  | _ =>
      rfl

theorem body?_untagged (d : Dispatch) : d.untagged.body? = d.body?.map View.untagged := by
  cases d with
  | declared value =>
      rw [untagged, body?, body?, View.isFilledMapping_untagged]
      split <;> rfl
  | _ =>
      rfl

end Dispatch

namespace DispatchTrigger

theorem checkInput_untagged (input : View) : checkInput input.untagged = checkInput input := by
  simp only [checkInput, View.isAbsent_untagged, View.get_untagged, View.string?_untagged]

theorem check_untagged (w : Workflow) : check w.untagged = check w := by
  rw [check, check, w.get_untagged, Dispatch.find_untagged]
  cases Dispatch.find (w.get "on") with
  | missing =>
      rfl
  | bare =>
      rfl
  | declared value =>
      -- the body is there in both or in neither
      have hbody := Dispatch.body?_untagged (.declared value)
      rw [Dispatch.untagged] at hbody ⊢
      simp only [hbody]
      cases Dispatch.body? (.declared value) with
      | none =>
          rfl
      | some body =>
          simp only [Option.map_some, View.get_untagged, checkInput_untagged]

end DispatchTrigger

namespace BuildJob

theorem checkVersion_untagged (p : Policy) (s : Step) :
    checkVersion p s.untagged = checkVersion p s := by
  simp [checkVersion]

theorem checkJob_untagged (p : Policy) (j : Job) : checkJob p j.untagged = checkJob p j := by
  have hgradle : usesGradle j.untagged = usesGradle j :=
    j.any_steps_untagged fun s => by rw [s.uses_untagged]
  simp [checkJob, checkRunner, hgradle, List.flatMap_map, checkVersion_untagged]

theorem check_untagged (w : Workflow) (p : Policy) : check w.untagged p = check w p := by
  rw [check, check, w.job?_untagged]
  cases w.job? job with
  | none =>
      rfl
  | some j =>
      exact checkJob_untagged p j

end BuildJob

namespace SmokeJob

theorem checkJob_untagged (p : Policy) (j : Job) : checkJob p j.untagged = checkJob p j := by
  simp [checkJob]

theorem check_untagged (w : Workflow) (p : Policy) : check w.untagged p = check w p := by
  rw [check, check, w.job?_untagged]
  cases w.job? job with
  | none =>
      rfl
  | some j =>
      exact checkJob_untagged p j

end SmokeJob

/-- A rule that looks at the root finds the same without tags. -/
theorem Registry.check_untagged {r : Rule} (hr : r ∈ treeBased) (w : Workflow) (p : Policy) :
    r.check w.untagged p = r.check w p := by
  simp only [treeBased, List.mem_cons, List.not_mem_nil, or_false] at hr
  rcases hr with rfl | rfl | rfl | rfl | rfl | rfl
  · exact RequiredKeys.check_untagged w
  · exact DispatchTrigger.check_untagged w
  · exact PermissionsDeclared.check_untagged w
  · exact JobsDefined.check_untagged w
  · exact BuildJob.check_untagged w p
  · exact SmokeJob.check_untagged w p

/-! ## Roots that differ in tags -/

namespace Entries

open Yaml.Value

/-- Two mappings differ in nothing but the tags of values. -/
def SameButTags (m m' : Entries) : Prop :=
  untaggedEntries m = untaggedEntries m'

instance (m m' : Entries) : Decidable (SameButTags m m') :=
  inferInstanceAs (Decidable (_ = _))

/-! ### Renaming the key of the triggers -/

theorem isTrueKey_untaggedKey (k : Value) : isTrueKey (untaggedKey k) = isTrueKey k := by
  cases k <;> simp [untaggedKey, isTrueKey]

theorem isStringKey_untaggedKey (key : String) (k : Value) :
    isStringKey key (untaggedKey k) = isStringKey key k := by
  cases k <;> simp [untaggedKey, isStringKey]

theorem moveLast_untagged (back : Entries) :
    moveLast (untaggedEntries back) = untaggedEntries (moveLast back) := by
  simp only [untaggedEntries_eq_map]
  rcases List.eq_nil_or_concat' back with rfl | ⟨back, last, rfl⟩
  · rfl
  · rw [List.map_append, List.map_singleton, moveLast_append_singleton, moveLast_append_singleton,
      List.map_cons]

theorem takeTrue_untagged (m : Entries) :
    takeTrue (untaggedEntries m) =
      (takeTrue m).map fun (v, rest) => (v.untagged, untaggedEntries rest) := by
  induction m with
  | nil =>
      rfl
  | cons e m ih =>
      rcases e with ⟨k, v⟩
      rw [untaggedEntries, takeTrue_cons, takeTrue_cons, isTrueKey_untaggedKey, ih,
        moveLast_untagged]
      cases isTrueKey k with
      | true =>
          rfl
      | false =>
          cases takeTrue m <;> rfl

theorem set_untagged (m : Entries) (key : String) (v : Value) :
    set key v.untagged (untaggedEntries m) = untaggedEntries (set key v m) := by
  induction m with
  | nil =>
      rfl
  | cons e m ih =>
      rcases e with ⟨k, u⟩
      cases hk : isStringKey key k with
      | true =>
          simp [untaggedEntries, set, isStringKey_untaggedKey, hk]
      | false =>
          simp [untaggedEntries, set, isStringKey_untaggedKey, hk, ih]

theorem normalizeTrigger_untagged (m : Entries) :
    normalizeTrigger (untaggedEntries m) = untaggedEntries (normalizeTrigger m) := by
  rw [normalizeTrigger, normalizeTrigger, takeTrue_untagged]
  cases takeTrue m with
  | none =>
      rfl
  | some found =>
      exact set_untagged found.2 triggerKey found.1

/-- Renaming the key of the triggers brings in no other difference. -/
theorem SameButTags.normalizeTrigger {m m' : Entries} (h : m.SameButTags m') :
    m.normalizeTrigger.SameButTags m'.normalizeTrigger := by
  rw [SameButTags, ← normalizeTrigger_untagged, ← normalizeTrigger_untagged, h]

end Entries

/-- Two workflows are seen alike: the rules that look at the root find the same in both, and so does
whoever follows a path from the root. -/
structure Workflow.SeenAlike (w w' : Workflow) : Prop where
  findings : ∀ r ∈ Registry.treeBased, ∀ p, r.check w p = r.check w' p
  views : ∀ path, (w.root.follow path).Alike (w'.root.follow path)

namespace Entries.SameButTags

variable {m m' : Entries}

theorem seenAlike_of_entries {w w' : Workflow} (h : w.entries.SameButTags w'.entries) :
    w.SeenAlike w' where
  findings := by
    intro r hr p
    -- without tags the roots are the same, and the text is not looked at
    have hsame : w.untagged.SameSections w'.untagged := .of_entries_eq h
    calc
      r.check w p = r.check w.untagged p := (Registry.check_untagged hr w p).symm
      _ = r.check w'.untagged p := Registry.check_eq_of_sameSections hsame hr p
      _ = r.check w' p := Registry.check_untagged hr w' p
  views := by
    intro path
    have hroot : w.root.untagged = w'.root.untagged := congrArg View.mapping h
    apply View.Alike.of_untagged_eq
    rw [← View.follow_untagged, ← View.follow_untagged, hroot]

/-- Rules that look at the root find the same in two texts whose roots differ in tags only,
whichever rules they are and in whatever order they run. -/
theorem validateWith_eq_of_parse {s t : String} {w w' : Workflow} (hs : Workflow.parse s = .ok w)
    (ht : Workflow.parse t = .ok w') (h : w.entries.SameButTags w'.entries) {registry : Registry}
    (hrules : ∀ r ∈ registry, r ∈ Registry.treeBased) (p : Policy) :
    validateWith registry s p = validateWith registry t p := by
  have halike := seenAlike_of_entries h
  have hfindings : ∀ r ∈ registry, r.check w p = r.check w' p := by
    intro r hr
    exact halike.findings r (hrules r hr) p
  rw [validateWith_of_ok hs, validateWith_of_ok ht, Registry.run, Registry.run]
  exact List.flatMap_congr hfindings

/-- Two mappings that differ in tags only are seen alike as the roots of workflows, and so are the
workflows that are made of them, in which the key of the triggers is renamed. -/
theorem seenAlike (h : m.SameButTags m') (source source' : String) :
    (∀ renamed renamed', Workflow.SeenAlike ⟨m, renamed, source⟩ ⟨m', renamed', source'⟩) ∧
      ∃ w w', Workflow.ofValue source (.mapping m) = .ok w ∧
        Workflow.ofValue source' (.mapping m') = .ok w' ∧ w.SeenAlike w' := by
  have hrenamed := h.normalizeTrigger
  constructor
  · intro renamed renamed'
    exact seenAlike_of_entries h
  · exact ⟨_, _, rfl, rfl, seenAlike_of_entries hrenamed⟩

/-! ### A workflow with tags -/

/-- Triggers and a step under tags, some of them under two. -/
def taggedEntries : Entries :=
  [(.bool true, .tagged "when" (.tagged "manual"
      (.mapping [(.string "workflow_dispatch", .tagged "none" .null)]))),
    (.string "jobs", .mapping
      [(.string "build", .tagged "job" (.mapping
        [(.string "steps", .sequence [.tagged "step" (.mapping
          [(.string "run", .tagged "script" (.tagged "shell" (.string "./gradlew")))])])]))])]

/-- The same without these tags, and with one on the section of the jobs. -/
def plainEntries : Entries :=
  [(.bool true, .mapping [(.string "workflow_dispatch", .null)]),
    (.string "jobs", .tagged "jobs" (.mapping
      [(.string "build", .mapping
        [(.string "steps", .sequence [.mapping [(.string "run", .string "./gradlew")]])])]))]

theorem seenAlike_taggedEntries :
    taggedEntries.SameButTags plainEntries ∧ taggedEntries ≠ plainEntries ∧
      ∃ w w', Workflow.ofValue "" (.mapping taggedEntries) = .ok w ∧
        Workflow.ofValue "" (.mapping plainEntries) = .ok w' ∧ w.SeenAlike w' := by
  have hsame : taggedEntries.SameButTags plainEntries := by decide
  exact ⟨hsame, by decide, (seenAlike hsame "" "").2⟩

end Entries.SameButTags

end WorkflowLint
