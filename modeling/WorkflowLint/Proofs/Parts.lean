import WorkflowLint.Proofs.Steps

/-!
# Parts — what occurs in the text of a collection

A value has parts: its items, the keys and values of its entries, what stands under its tags, and
the parts of these (`Value.PartOf`). The text of every part occurs in the text of the whole
(`View.infix_text_of_partOf`).

The other way round, brackets, braces, commas, colons and spaces stand between the texts of any two
leaves, with empty texts between them or not. So a token without these (`View.IsToken`) straddles no
two of them, and occurs in the whole only if it occurs in one leaf (`View.IsToken.exists_leaf`). The
family of a runner is found in a collection of labels, however deep they lie, just if it is found in
one label (`View.contains_part_and_leaf_iff`).
-/

namespace WorkflowLint

open Yaml (Value)

/-! ## Parts of a value -/

namespace Yaml.Value

/-- A value is a part of another, at any depth. Every value is a part of itself. -/
inductive PartOf (part : Value) : Value → Prop
  | self : PartOf part part
  | item {items : List Value} {v : Value} :
      v ∈ items → PartOf part v → PartOf part (.sequence items)
  | key {entries : List (Value × Value)} {e : Value × Value} :
      e ∈ entries → PartOf part e.1 → PartOf part (.mapping entries)
  | value {entries : List (Value × Value)} {e : Value × Value} :
      e ∈ entries → PartOf part e.2 → PartOf part (.mapping entries)
  | tagged {tag : String} {v : Value} : PartOf part v → PartOf part (.tagged tag v)

/-- Neither a collection nor a value under a tag. -/
def isScalar : Value → Bool
  | .sequence _ | .mapping _ | .tagged _ _ => false
  | _ => true

/-- A scalar among the parts of a value. -/
structure LeafOf (leaf v : Value) : Prop where
  part : PartOf leaf v
  isScalar : leaf.isScalar = true

/-- Keys and values of entries are smaller than the mapping. -/
theorem sizeOf_entry_lt {entries : List (Value × Value)} {e : Value × Value} (he : e ∈ entries) :
    sizeOf e.1 < sizeOf (Value.mapping entries) ∧ sizeOf e.2 < sizeOf (Value.mapping entries) := by
  have hentry : sizeOf e < sizeOf entries := List.sizeOf_lt_of_mem he
  rcases e with ⟨k, v⟩
  simp only [Prod.mk.sizeOf_spec, mapping.sizeOf_spec] at hentry ⊢
  omega

/-- Induction over a value from its parts. -/
@[elab_as_elim]
theorem partsInduction {motive : Value → Prop} (scalar : ∀ v, v.isScalar = true → motive v)
    (sequence : ∀ items, (∀ v ∈ items, motive v) → motive (.sequence items))
    (mapping : ∀ entries, (∀ e ∈ entries, motive e.1 ∧ motive e.2) → motive (.mapping entries))
    (tagged : ∀ tag v, motive v → motive (.tagged tag v)) (v : Value) : motive v := by
  cases v with
  | sequence items =>
      refine sequence items ?_
      intro v _
      exact partsInduction scalar sequence mapping tagged v
  | mapping entries =>
      refine mapping entries ?_
      intro e he
      have hsize := sizeOf_entry_lt he
      exact ⟨partsInduction scalar sequence mapping tagged e.1,
        partsInduction scalar sequence mapping tagged e.2⟩
  | tagged tag v =>
      exact tagged tag v (partsInduction scalar sequence mapping tagged v)
  | _ =>
      exact scalar _ rfl
termination_by sizeOf v
decreasing_by
  · decreasing_tactic
  · exact hsize.1
  · exact hsize.2
  · decreasing_tactic

end Yaml.Value

/-! ## Texts of parts -/

namespace View

open Yaml.Value

variable {items : List Value} {entries : List (Value × Value)} {v part : Value} {token : String}

/-- The characters that stand around the texts of parts and between them. -/
def separators : List Char :=
  ['[', ']', '{', '}', ',', ':', ' ']

/-- A text that is not empty and has no separators. -/
structure IsToken (token : String) : Prop where
  nonempty : token ≠ ""
  free : ∀ c ∈ separators, c ∉ token.toList

theorem IsToken.toList_ne_nil (htoken : IsToken token) : token.toList ≠ [] := by
  simpa using htoken.nonempty

theorem toList_text_sequence (items : List Value) :
    (ofValue (.sequence items)).text.toList =
      ['['] ++ [',', ' '].intercalate (items.map fun v => (ofValue v).text.toList) ++ [']'] := by
  rw [ofValue, text, textOfValue, String.toList_append, String.toList_append,
    String.toList_intercalate, textsOfItems_eq_map, List.map_map]
  rfl

/-- The text of an entry, the key and the value with a colon between them. -/
def entryText (e : Value × Value) : List Char :=
  (ofValue e.1).text.toList ++ [':', ' '] ++ (ofValue e.2).text.toList

theorem toList_text_mapping (entries : List (Value × Value)) :
    (ofValue (.mapping entries)).text.toList =
      ['{'] ++ [',', ' '].intercalate (entries.map entryText) ++ ['}'] := by
  have hentry : ∀ e ∈ entries,
      ((ofValue e.1).text ++ ": " ++ (ofValue e.2).text).toList = entryText e := by
    intro e _
    rw [String.toList_append, String.toList_append]
    rfl
  rw [ofValue, text, textOfValue, String.toList_append, String.toList_append,
    String.toList_intercalate, textsOfEntries_eq_map, List.map_map]
  rw [← List.map_congr_left hentry]
  rfl

/-! ### From a part to the whole -/

theorem infix_text_item (hv : v ∈ items) :
    (ofValue v).text.toList <:+: (ofValue (.sequence items)).text.toList := by
  have hjoined : (ofValue v).text.toList <:+:
      [',', ' '].intercalate (items.map fun v => (ofValue v).text.toList) :=
    Text.infix_intercalate_of_mem (List.mem_map_of_mem hv) List.infix_rfl
  rw [toList_text_sequence]
  exact hjoined.trans (List.infix_append _ _ _)

theorem infix_text_entry {e : Value × Value} (he : e ∈ entries) :
    entryText e <:+: (ofValue (.mapping entries)).text.toList := by
  have hjoined : entryText e <:+: [',', ' '].intercalate (entries.map entryText) :=
    Text.infix_intercalate_of_mem (List.mem_map_of_mem he) List.infix_rfl
  rw [toList_text_mapping]
  exact hjoined.trans (List.infix_append _ _ _)

theorem infix_text_key {e : Value × Value} (he : e ∈ entries) :
    (ofValue e.1).text.toList <:+: (ofValue (.mapping entries)).text.toList := by
  have hkey : (ofValue e.1).text.toList <+: entryText e := by
    rw [entryText, List.append_assoc]
    exact List.prefix_append _ _
  exact hkey.isInfix.trans (infix_text_entry he)

theorem infix_text_value {e : Value × Value} (he : e ∈ entries) :
    (ofValue e.2).text.toList <:+: (ofValue (.mapping entries)).text.toList := by
  have hvalue : (ofValue e.2).text.toList <:+ entryText e := List.suffix_append _ _
  exact hvalue.isInfix.trans (infix_text_entry he)

/-- The text of every part occurs in that of the whole. -/
theorem infix_text_of_partOf (h : PartOf part v) :
    (ofValue part).text.toList <:+: (ofValue v).text.toList := by
  induction h with
  | self =>
      exact List.infix_rfl
  | item hv _ ih =>
      exact ih.trans (infix_text_item hv)
  | key he _ ih =>
      exact ih.trans (infix_text_key he)
  | value he _ ih =>
      exact ih.trans (infix_text_value he)
  | tagged _ ih =>
      rwa [ofValue]

/-! ### From the whole to a leaf -/

theorem IsToken.free_of_subset (htoken : IsToken token) {sep : List Char}
    (hsep : sep ⊆ separators) : ∀ c ∈ sep, c ∉ token.toList := by
  intro c hc
  exact htoken.free c (hsep hc)

/-- A token in a text of joined parts between separators lies in one of them. -/
theorem IsToken.exists_of_infix_joined (htoken : IsToken token) {texts : List (List Char)}
    {opening closing : Char} (hopening : opening ∈ separators) (hclosing : closing ∈ separators)
    (h : token.toList <:+: [opening] ++ [',', ' '].intercalate texts ++ [closing]) :
    ∃ text ∈ texts, token.toList <:+: text := by
  have hcomma : ∀ c ∈ [',', ' '], c ∉ token.toList := htoken.free_of_subset (by decide)
  rw [Text.infix_enclosed_iff (htoken.free _ hopening) (htoken.free _ hclosing)
    htoken.toList_ne_nil] at h
  exact (Text.infix_intercalate_iff (List.cons_ne_nil _ _) hcomma htoken.toList_ne_nil).1 h

theorem IsToken.exists_item (htoken : IsToken token)
    (h : token.toList <:+: (ofValue (.sequence items)).text.toList) :
    ∃ v ∈ items, token.toList <:+: (ofValue v).text.toList := by
  rw [toList_text_sequence] at h
  rcases htoken.exists_of_infix_joined (by decide) (by decide) h with ⟨text, htext, h⟩
  rcases List.mem_map.1 htext with ⟨v, hv, rfl⟩
  exact ⟨v, hv, h⟩

/-- A token in the text of a mapping lies in the key or in the value of one entry. -/
theorem IsToken.exists_entry (htoken : IsToken token)
    (h : token.toList <:+: (ofValue (.mapping entries)).text.toList) :
    ∃ e ∈ entries, token.toList <:+: (ofValue e.1).text.toList ∨
      token.toList <:+: (ofValue e.2).text.toList := by
  have hcolon : ∀ c ∈ [':', ' '], c ∉ token.toList := htoken.free_of_subset (by decide)
  rw [toList_text_mapping] at h
  rcases htoken.exists_of_infix_joined (by decide) (by decide) h with ⟨text, htext, h⟩
  rcases List.mem_map.1 htext with ⟨e, he, rfl⟩
  exact ⟨e, he, (Text.infix_append_separator_iff (List.cons_ne_nil _ _) hcolon _ _).1 h⟩

/-- A token in the text of a value lies in one leaf. -/
theorem IsToken.exists_leaf (htoken : IsToken token) (v : Value)
    (h : token.toList <:+: (ofValue v).text.toList) :
    ∃ leaf, LeafOf leaf v ∧ token.toList <:+: (ofValue leaf).text.toList := by
  induction v using partsInduction with
  | scalar v hscalar =>
      exact ⟨v, ⟨.self, hscalar⟩, h⟩
  | sequence items ih =>
      rcases htoken.exists_item h with ⟨v, hv, h⟩
      rcases ih v hv h with ⟨leaf, hleaf, h⟩
      exact ⟨leaf, ⟨.item hv hleaf.part, hleaf.isScalar⟩, h⟩
  | mapping entries ih =>
      rcases htoken.exists_entry h with ⟨e, he, h | h⟩
      · rcases (ih e he).1 h with ⟨leaf, hleaf, h⟩
        exact ⟨leaf, ⟨.key he hleaf.part, hleaf.isScalar⟩, h⟩
      · rcases (ih e he).2 h with ⟨leaf, hleaf, h⟩
        exact ⟨leaf, ⟨.value he hleaf.part, hleaf.isScalar⟩, h⟩
  | tagged tag v ih =>
      rw [ofValue] at h
      rcases ih h with ⟨leaf, hleaf, h⟩
      exact ⟨leaf, ⟨.tagged hleaf.part, hleaf.isScalar⟩, h⟩

/-- A value has a token in its text just if some leaf has. -/
theorem IsToken.contains_text_iff (htoken : IsToken token) (v : Value) :
    Text.contains (ofValue v).text token = true ↔
      ∃ leaf, LeafOf leaf v ∧ Text.contains (ofValue leaf).text token = true := by
  simp only [Text.contains_iff_isInfix]
  constructor
  · exact htoken.exists_leaf v
  · rintro ⟨leaf, hleaf, h⟩
    exact h.trans (infix_text_of_partOf hleaf.part)

end View

/-! ## Labels of a runner -/

namespace BuildJob

variable {w : Workflow} {p : Policy} {v : Value}

theorem runner_eq_nil_iff (p : Policy) (job : View) :
    Advice.runner p job = [] ↔
      p.runnerFamily.toList <:+: (job.get "runs-on").text.toList := by
  rw [Advice.runner]
  split
  · next hunusual =>
    exact iff_of_false (List.cons_ne_nil _ _) hunusual
  · next husual =>
    exact iff_of_true rfl (Classical.not_not.1 husual)

/-- Where the build job says what it runs on, there is no warning about the runner just if the
family occurs in the text of that value. -/
theorem about_runner_eq_nil_iff (hv : (w.jobs.get "build").get "runs-on" = View.ofValue v) :
    (check w p).warnings.about runnerLead = [] ↔
      Text.contains (View.ofValue v).text p.runnerFamily = true := by
  have hkey : w.jobs.HasKey "build" := by
    apply View.hasKey_of_get_ne_absent
    rw [hv]
    exact View.ofValue_ne_absent v
  rw [(about_warnings_check hkey).1, runner_eq_nil_iff, hv, Text.contains_iff_isInfix]

end BuildJob

namespace View

open Yaml.Value

/-- The text of a value holds the text of every part of it, at any depth. It holds a token without
separators just if the text of one leaf does, key or value. So a warning on the build job's runner
is missing just if one label has the expected family in it. -/
theorem contains_part_and_leaf_iff (v : Value) :
    (∀ part, PartOf part v → Text.contains (ofValue v).text (ofValue part).text = true) ∧
    (∀ token, IsToken token →
      (Text.contains (ofValue v).text token = true ↔
        ∃ leaf, LeafOf leaf v ∧ Text.contains (ofValue leaf).text token = true)) ∧
    ∀ (w : Workflow) (p : Policy), (w.jobs.get "build").get "runs-on" = ofValue v →
      IsToken p.runnerFamily →
      ((BuildJob.check w p).warnings.about BuildJob.runnerLead = [] ↔
        ∃ leaf, LeafOf leaf v ∧ Text.contains (ofValue leaf).text p.runnerFamily = true) := by
  refine ⟨?_, ?_, ?_⟩
  · intro part hpart
    exact (Text.contains_iff_isInfix _ _).2 (infix_text_of_partOf hpart)
  · intro token htoken
    exact htoken.contains_text_iff v
  · intro w p hv hfamily
    rw [BuildJob.about_runner_eq_nil_iff hv]
    exact hfamily.contains_text_iff v

/-- With separators in it, a text may straddle two items. -/
example :
    Text.contains (ofValue (.sequence [.string "a", .null, .string "b"])).text "a, , b" = true := by
  decide

/-! ### Labels in a collection -/

/-- A group without a name, under a key that is a collection, and labels in a list under a tag. -/
def pool : Value :=
  .mapping [(.sequence [.string "group", .bool true], .null),
    (.string "labels", .tagged "any"
      (.sequence [.null, .string "self-hosted", .string "ubuntu-22.04"]))]

/-- A workflow whose build job runs on the pool. -/
def pooled : Workflow :=
  ⟨[(.string "jobs", .mapping [(.string "build", .mapping [(.string "runs-on", pool)])])],
    false, ""⟩

theorem leafOf_pool : LeafOf (.string "ubuntu-22.04") pool where
  part := by
    refine .value (List.mem_cons_of_mem _ List.mem_cons_self) (.tagged (.item ?_ .self))
    exact List.mem_cons_of_mem _ (List.mem_cons_of_mem _ List.mem_cons_self)
  isScalar := rfl

theorem contains_part_and_leaf_iff_pool :
    LeafOf (.string "ubuntu-22.04") pool ∧
    Text.contains (ofValue pool).text (ofValue (.string "ubuntu-22.04")).text = true ∧
    IsToken "hosted" ∧
    (∃ leaf, LeafOf leaf pool ∧ Text.contains (ofValue leaf).text "hosted" = true) ∧
    (pooled.jobs.get "build").get "runs-on" = ofValue pool ∧
    IsToken Policy.standard.runnerFamily ∧
    (BuildJob.check pooled .standard).warnings.about BuildJob.runnerLead = [] := by
  have hhosted : IsToken "hosted" := ⟨by decide, by simp [separators]⟩
  have hubuntu : IsToken Policy.standard.runnerFamily :=
    ⟨by decide, by simp [separators, Policy.standard]⟩
  have hparts := contains_part_and_leaf_iff pool
  refine ⟨leafOf_pool, hparts.1 _ leafOf_pool.part, hhosted, (hparts.2.1 _ hhosted).1 ?_, rfl,
    hubuntu, (hparts.2.2 pooled .standard rfl hubuntu).2 ⟨_, leafOf_pool, ?_⟩⟩
  · decide
  · decide

end View

end WorkflowLint
