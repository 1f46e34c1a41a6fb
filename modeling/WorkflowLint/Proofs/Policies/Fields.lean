import Mathlib.Data.Option.Basic
import WorkflowLint.Policy.Decode
import WorkflowLint.Proofs.Yaml.Nodes

/-!
# Fields — what reading the entries of a policy file comes to

A text field takes the text of any scalar, whatever the scalar would stand for elsewhere, and the
field of versions the texts of a sequence (`Policy.Field.valueIn?`). An entry is read if its key is
the name of a field that has not been given yet, and its value is of the type of that field. Then
the field has that value, and the others stay (`Policy.Extends`).

A document that is read as a value follows the same aliases, so a policy reader never meets the
limit on aliases in one (`Policy.readEntries_eq_ok_iff`).
-/

namespace WorkflowLint

open Yaml
open Value (ofNode ofItems ofEntries)

/-! ## Values of fields -/

/-- The texts of the items of a sequence; an empty plain scalar is a sequence without items. -/
def Yaml.Document.texts? (d : Document) (n : Node) : Option (List String) :=
  match d.target n with
  | .content _ _ _ (.sequence items) => items.mapM d.text?
  | .content _ _ _ body => if Policy.isVoid body then some [] else none
  | _ => none

namespace Policy

variable {d : Document} {n : Node} {path other : Path} {depth jumps jumps' jumps'' : Nat}

/-- The value of a field: a text, or several. -/
inductive FieldValue
  | text (text : String)
  | texts (texts : List String)
  deriving DecidableEq, Repr

/-- The value of a field of a policy. -/
def value (p : Policy) : Field → FieldValue
  | .workflowPath => .text p.workflowPath
  | .expectedRepo => .text p.expectedRepo
  | .expectedPackage => .text p.expectedPackage
  | .runnerFamily => .text p.runnerFamily
  | .jdkVersions => .texts p.jdkVersions

namespace Field

/-- The value that a node gives a field, if the node is of the type of the field. -/
def valueIn? (d : Document) (n : Node) : Field → Option FieldValue
  | .jdkVersions => (d.texts? n).map .texts
  | _ => (d.text? n).map .text

theorem name_injective {f g : Field} (h : f.name = g.name) : f = g := by
  revert h
  cases f <;> cases g <;> decide

theorem ofName?_eq_some_iff {name : String} {f : Field} :
    ofName? name = some f ↔ name = f.name := by
  constructor
  · intro h
    have hname := List.find?_some h
    exact (eq_of_beq hname).symm
  · rintro rfl
    cases f <;> decide

end Field

namespace Overrides

/-- The value that has been given to a field. -/
def value? (o : Overrides) : Field → Option FieldValue
  | .workflowPath => o.workflowPath.map .text
  | .expectedRepo => o.expectedRepo.map .text
  | .expectedPackage => o.expectedPackage.map .text
  | .runnerFamily => o.runnerFamily.map .text
  | .jdkVersions => o.jdkVersions.map .texts

theorem has_eq (o : Overrides) (f : Field) : o.has f = (o.value? f).isSome := by
  cases f <;> simp only [has, value?, Option.isSome_map]

theorem value?_none (f : Field) : none.value? f = .none := by
  cases f <;> rfl

theorem value_apply (o : Overrides) (p : Policy) (f : Field) :
    (o.apply p).value f = (o.value? f).getD (p.value f) := by
  cases f <;> simp only [Policy.value, apply, value?, Option.getD_map]

theorem ext_value? {o o' : Overrides} (h : ∀ f, o.value? f = o'.value? f) : o = o' := by
  have htext : Function.Injective (Option.map FieldValue.text) :=
    Option.map_injective fun _ _ => FieldValue.text.inj
  have htexts : Function.Injective (Option.map FieldValue.texts) :=
    Option.map_injective fun _ _ => FieldValue.texts.inj
  rcases o with ⟨path, repo, package, runner, jdks⟩
  rcases o' with ⟨path', repo', package', runner', jdks'⟩
  have hpath : path = path' := htext (h .workflowPath)
  have hrepo : repo = repo' := htext (h .expectedRepo)
  have hpackage : package = package' := htext (h .expectedPackage)
  have hrunner : runner = runner' := htext (h .runnerFamily)
  have hjdks : jdks = jdks' := htexts (h .jdkVersions)
  rw [hpath, hrepo, hpackage, hrunner, hjdks]

/-- The fields after one more has been given a value of its type. -/
def give (o : Overrides) : Field → FieldValue → Overrides
  | .workflowPath, .text s => { o with workflowPath := some s }
  | .expectedRepo, .text s => { o with expectedRepo := some s }
  | .expectedPackage, .text s => { o with expectedPackage := some s }
  | .runnerFamily, .text s => { o with runnerFamily := some s }
  | .jdkVersions, .texts ss => { o with jdkVersions := some ss }
  | _, _ => o

theorem value?_give_self {f : Field} {x : FieldValue} (h : f.valueIn? d n = some x)
    (o : Overrides) : (o.give f x).value? f = some x := by
  cases f <;> rcases Option.map_eq_some_iff.1 h with ⟨_, _, rfl⟩ <;> rfl

theorem value?_give_of_ne {f g : Field} (hne : g ≠ f) (o : Overrides) (x : FieldValue) :
    (o.give f x).value? g = o.value? g := by
  cases f <;> cases x <;> cases g <;> simp_all [give, value?]

end Overrides

/-! ## Readers -/

theorem readText_eq_ok_iff {α : Type} {wanted : String} {use : String → Except ContentError α}
    {v : Value} {a : α} (h : ofNode d depth n path jumps = .ok (v, jumps')) :
    readText d wanted use n other jumps = .ok (a, jumps'') ↔
      jumps'' = jumps' ∧ ∃ text, d.text? n = some text ∧ use text = .ok a := by
  rcases Document.exists_body_of_ofNode h with ⟨_, _, _, body, start, htarget, hfollow, hscalar, _⟩
  rcases hfollow other with ⟨_, hother⟩
  rw [readText, Reading.bind_eq_of_eq_ok hother, Document.text?, htarget]
  cases body with
  | scalar style text =>
      have hstart := hscalar style text rfl
      simp only [Reading.place_eq_ok_iff, hstart, Option.some.injEq, exists_eq_left']
  | _ =>
      simp only [Reading.place_eq_ok_iff, reduceCtorEq, and_false, false_and, exists_false]

theorem readTexts_eq_ok_iff {items : List Node} {values : List Value} {texts : List String}
    {i k : Nat} (h : ofItems (ofNode d depth) path i items jumps = .ok (values, jumps')) :
    readTexts d other k items jumps = .ok (texts, jumps'') ↔
      jumps'' = jumps' ∧ items.mapM d.text? = some texts := by
  induction items generalizing i k jumps values texts jumps'' with
  | nil =>
      cases h
      rw [readTexts, Reading.pure_eq_ok_iff, List.mapM_nil]
      simp [eq_comm]
  | cons n items ih =>
      rw [ofItems, Reading.bind_eq_ok_iff] at h
      rcases h with ⟨v, start, hv, h⟩
      rw [Reading.bind_eq_ok_iff] at h
      rcases h with ⟨rest, _, hrest, h⟩
      cases h
      rw [readTexts, Reading.bind_eq_ok_iff, List.mapM_cons]
      constructor
      · rintro ⟨text, _, hfirst, h⟩
        rcases (readText_eq_ok_iff hv).1 hfirst with ⟨rfl, _, htext, ⟨⟩⟩
        rcases Reading.bind_eq_ok_iff.1 h with ⟨more, _, hothers, h⟩
        rcases (ih hrest).1 hothers with ⟨rfl, hmore⟩
        cases h
        rw [htext, hmore]
        exact ⟨rfl, rfl⟩
      · rintro ⟨rfl, h⟩
        rcases Option.bind_eq_some_iff.1 h with ⟨text, htext, h⟩
        rcases Option.bind_eq_some_iff.1 h with ⟨more, hmore, h⟩
        cases h
        refine ⟨text, start, (readText_eq_ok_iff hv).2 ⟨rfl, text, htext, rfl⟩, ?_⟩
        rw [Reading.bind_eq_of_eq_ok ((ih hrest).2 ⟨rfl, hmore⟩)]
        rfl

theorem readList_eq_ok_iff {v : Value} {texts : List String}
    (h : ofNode d depth n path jumps = .ok (v, jumps')) :
    readList d n other jumps = .ok (texts, jumps'') ↔
      jumps'' = jumps' ∧ d.texts? n = some texts := by
  rcases Document.exists_body_of_ofNode h with
    ⟨_, _, _, body, start, htarget, hfollow, hscalar, hitems⟩
  rcases hfollow other with ⟨_, hother⟩
  rw [readList, Reading.bind_eq_of_eq_ok hother, Document.texts?, htarget]
  cases body with
  | scalar style text =>
      have hstart := hscalar style text rfl
      show (if isVoid (.scalar style text) then _ else _ : Reading _) start = _ ↔ _
      by_cases hvoid : isVoid (.scalar style text) = true
      · simp only [hvoid, if_true, hstart, Option.some.injEq]
        rw [eq_comm (a := ([] : List String))]
        exact Reading.pure_eq_ok_iff
      · simp only [hvoid, if_false, Reading.place_eq_ok_iff, reduceCtorEq, and_false]
  | sequence items =>
      rcases hitems items rfl with ⟨_, _, _, hread⟩
      exact readTexts_eq_ok_iff hread
  | mapping nodes =>
      simp [isVoid, Reading.place_eq_ok_iff]

theorem readField_eq_ok_iff {v : Value} {f : Field}
    (h : ofNode d depth n path jumps = .ok (v, jumps')) :
    readField d n other jumps = .ok (f, jumps'') ↔
      jumps'' = jumps' ∧ d.text? n = some f.name := by
  rw [readField, readText_eq_ok_iff h]
  constructor
  · rintro ⟨hjumps, name, htext, hname⟩
    split at hname
    · next hfound =>
      cases hname
      exact ⟨hjumps, by rw [htext, Field.ofName?_eq_some_iff.1 hfound]⟩
    · cases hname
  · rintro ⟨hjumps, htext⟩
    refine ⟨hjumps, f.name, htext, ?_⟩
    simp only [Field.ofName?_eq_some_iff.2 rfl]

/-- Reading something gives it to a field. -/
theorem bind_eq_ok_iff_give {α : Type} {read : Reading α} {found : Option α}
    {make : α → FieldValue} {set : α → Overrides} {o o' : Overrides} {f : Field}
    (hread : ∀ a, read jumps = .ok (a, jumps'') ↔ jumps'' = jumps' ∧ found = some a)
    (hset : ∀ a, set a = o.give f (make a)) :
    (read >>= fun a => pure (set a)) jumps = .ok (o', jumps'') ↔
      jumps'' = jumps' ∧ ∃ x, found.map make = some x ∧ o' = o.give f x := by
  rw [Reading.bind_eq_ok_iff]
  constructor
  · rintro ⟨a, start, ha, hpure⟩
    rcases Reading.pure_eq_ok_iff.1 hpure with ⟨rfl, rfl⟩
    rcases (hread a).1 ha with ⟨hjumps, hfound⟩
    exact ⟨hjumps, make a, by rw [hfound]; rfl, hset a⟩
  · rintro ⟨hjumps, x, hx, rfl⟩
    rcases Option.map_eq_some_iff.1 hx with ⟨a, hfound, rfl⟩
    refine ⟨a, jumps'', (hread a).2 ⟨hjumps, hfound⟩, ?_⟩
    rw [hset]
    rfl

theorem readValue_eq_ok_iff {v : Value} {o o' : Overrides} {f : Field}
    (h : ofNode d depth n path jumps = .ok (v, jumps')) :
    readValue d o f n other jumps = .ok (o', jumps'') ↔
      jumps'' = jumps' ∧ ∃ x, f.valueIn? d n = some x ∧ o' = o.give f x := by
  have htext : ∀ wanted text, readText d wanted .ok n other jumps = .ok (text, jumps'') ↔
      jumps'' = jumps' ∧ d.text? n = some text := by
    intro wanted text
    simp only [readText_eq_ok_iff h, Except.ok.injEq, exists_eq_right]
  cases f with
  | jdkVersions =>
      exact bind_eq_ok_iff_give (fun _ => readList_eq_ok_iff h) fun _ => rfl
  | _ =>
      exact bind_eq_ok_iff_give (htext _) fun _ => rfl

/-! ## Entries -/

/-- The entries of a file have been read into what had been given before. -/
structure Extends (d : Document) (o : Overrides) (entries : List (Node × Node)) (o' : Overrides) :
    Prop where
  /-- Each entry names a field that had not been given, and has a value of its type. -/
  given : ∀ e ∈ entries, ∃ f x, d.text? e.1 = some (Field.name f) ∧ o.value? f = none ∧
    f.valueIn? d e.2 = some x ∧ o'.value? f = some x
  distinct : (entries.map fun e => d.text? e.1).Nodup
  others : ∀ f : Field, (∀ e ∈ entries, d.text? e.1 ≠ some f.name) → o'.value? f = o.value? f

namespace Extends

variable {o o' : Overrides} {f : Field} {x : FieldValue} {k v : Node}
  {entries : List (Node × Node)}

/-- The entries behind one with another key name other fields. -/
theorem ne_of_key_not_mem {e : Node × Node} {g : Field} (hkey : d.text? k = some f.name)
    (hnot : d.text? k ∉ entries.map fun e => d.text? e.1) (he : e ∈ entries)
    (hname : d.text? e.1 = some g.name) : g ≠ f := by
  rintro rfl
  have hmem := List.mem_map_of_mem (f := fun e => d.text? e.1) he
  rw [hname, ← hkey] at hmem
  exact hnot hmem

/-- What has been given stays. -/
theorem value?_eq (h : Extends d o entries o') (hf : o.value? f = some x) :
    o'.value? f = some x := by
  rw [← hf]
  apply h.others
  intro e he htext
  rcases h.given e he with ⟨g, _, hname, hnone, _⟩
  rw [Field.name_injective (Option.some.inj (htext.symm.trans hname)), hnone] at hf
  cases hf

theorem cons (hkey : d.text? k = some f.name) (hnone : o.value? f = none)
    (hvalue : f.valueIn? d v = some x) (h : Extends d (o.give f x) entries o') :
    Extends d o ((k, v) :: entries) o' := by
  have hself := Overrides.value?_give_self hvalue o
  have hne : ∀ e ∈ entries, ∀ g : Field, d.text? e.1 = some g.name → g ≠ f := by
    rintro e he g hname rfl
    rcases h.given e he with ⟨f', _, hname', hfree, _⟩
    rw [← Field.name_injective (Option.some.inj (hname.symm.trans hname')), hself] at hfree
    cases hfree
  constructor
  · rw [List.forall_mem_cons]
    refine ⟨⟨f, x, hkey, hnone, hvalue, h.value?_eq hself⟩, ?_⟩
    intro e he
    rcases h.given e he with ⟨g, y, hname, hfree, hrest⟩
    rw [Overrides.value?_give_of_ne (hne e he g hname)] at hfree
    exact ⟨g, y, hname, hfree, hrest⟩
  · rw [List.map_cons, List.nodup_cons]
    refine ⟨?_, h.distinct⟩
    intro hmem
    rcases List.mem_map.1 hmem with ⟨e, he, hsame⟩
    exact hne e he f (hsame.trans hkey) rfl
  · intro g hg
    rw [List.forall_mem_cons] at hg
    have hgf : g ≠ f := by
      rintro rfl
      exact hg.1 hkey
    rw [h.others g hg.2, Overrides.value?_give_of_ne hgf]

theorem uncons (h : Extends d o ((k, v) :: entries) o') :
    ∃ f x, d.text? k = some (Field.name f) ∧ o.value? f = none ∧ f.valueIn? d v = some x ∧
      Extends d (o.give f x) entries o' := by
  have hgiven := h.given
  have hdistinct := h.distinct
  rw [List.forall_mem_cons] at hgiven
  rw [List.map_cons, List.nodup_cons] at hdistinct
  rcases hgiven with ⟨⟨f, x, hkey, hnone, hvalue, hset⟩, hgiven⟩
  refine ⟨f, x, hkey, hnone, hvalue, ?_, hdistinct.2, ?_⟩
  · intro e he
    rcases hgiven e he with ⟨g, y, hname, hfree, hrest⟩
    have hne := ne_of_key_not_mem hkey hdistinct.1 he hname
    exact ⟨g, y, hname, by rw [Overrides.value?_give_of_ne hne, hfree], hrest⟩
  · intro g hg
    by_cases hgf : g = f
    · rw [hgf, hset, Overrides.value?_give_self hvalue]
    · rw [Overrides.value?_give_of_ne hgf]
      refine h.others g (List.forall_mem_cons.2 ⟨?_, hg⟩)
      intro hsame
      exact hgf (Field.name_injective (Option.some.inj (hsame.symm.trans hkey)))

/-- Entries that give values to different free fields can be read. -/
theorem exists_of_given {entries : List (Node × Node)} {o : Overrides}
    (hgiven : ∀ e ∈ entries, ∃ f x, d.text? e.1 = some (Field.name f) ∧ o.value? f = none ∧
      f.valueIn? d e.2 = some x)
    (hdistinct : (entries.map fun e => d.text? e.1).Nodup) : ∃ o', Extends d o entries o' := by
  induction entries generalizing o with
  | nil =>
      exact ⟨o, nofun, List.nodup_nil, fun _ _ => rfl⟩
  | cons e entries ih =>
      rcases e with ⟨k, v⟩
      rw [List.forall_mem_cons] at hgiven
      rw [List.map_cons, List.nodup_cons] at hdistinct
      rcases hgiven with ⟨⟨f, x, hkey, hnone, hvalue⟩, hgiven⟩
      have hmore : ∃ o', Extends d (o.give f x) entries o' := by
        refine ih ?_ hdistinct.2
        intro e he
        rcases hgiven e he with ⟨g, y, hname, hfree, hy⟩
        have hne := ne_of_key_not_mem hkey hdistinct.1 he hname
        exact ⟨g, y, hname, by rw [Overrides.value?_give_of_ne hne, hfree], hy⟩
      rcases hmore with ⟨o', h⟩
      exact ⟨o', h.cons hkey hnone hvalue⟩

end Extends

theorem readEntries_eq_ok_iff {mark mark' : Mark} {done values : List (Value × Value)}
    {entries : List (Node × Node)} {o o' : Overrides}
    (h : ofEntries (ofNode d depth) mark path done entries jumps = .ok (values, jumps')) :
    readEntries d mark' o entries jumps = .ok (o', jumps'') ↔
      jumps'' = jumps' ∧ Extends d o entries o' := by
  induction entries generalizing done jumps o with
  | nil =>
      cases h
      rw [readEntries, Reading.pure_eq_ok_iff]
      refine and_congr_right fun _ => ⟨?_, ?_⟩
      · rintro rfl
        exact ⟨nofun, List.nodup_nil, fun _ _ => rfl⟩
      · intro hextends
        exact Overrides.ext_value? fun f => hextends.others f nofun
  | cons e rest ih =>
      rcases e with ⟨k, v⟩
      rcases Value.of_ofEntries_cons h with ⟨key, value, start, middle, hkey, hvalue, hrest⟩
      rw [readEntries, Reading.bind_eq_ok_iff]
      constructor
      · rintro ⟨f, _, hfield, h⟩
        rcases (readField_eq_ok_iff hkey).1 hfield with ⟨rfl, hname⟩
        split at h
        · cases h
        · next hfree =>
          rw [Overrides.has_eq, Option.isSome_iff_ne_none, Classical.not_not] at hfree
          rcases Reading.bind_eq_ok_iff.1 h with ⟨_, _, hset, h⟩
          rcases (readValue_eq_ok_iff hvalue).1 hset with ⟨rfl, x, hx, rfl⟩
          rcases (ih hrest).1 h with ⟨rfl, hextends⟩
          exact ⟨rfl, hextends.cons hname hfree hx⟩
      · rintro ⟨rfl, hextends⟩
        rcases hextends.uncons with ⟨f, x, hname, hfree, hx, hmore⟩
        refine ⟨f, start, (readField_eq_ok_iff hkey).2 ⟨rfl, hname⟩, ?_⟩
        rw [if_neg (by rw [Overrides.has_eq, hfree]; exact Bool.false_ne_true),
          Reading.bind_eq_of_eq_ok ((readValue_eq_ok_iff hvalue).2 ⟨rfl, x, hx, rfl⟩)]
        exact (ih hrest).2 ⟨rfl, hmore⟩

end Policy

end WorkflowLint
