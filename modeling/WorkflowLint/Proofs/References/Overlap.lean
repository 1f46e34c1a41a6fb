import Mathlib.Data.List.Infix
import WorkflowLint.Proofs.References.Cover

/-!
# Overlaps — what the scan for references passes over

The scan does not look into a reference that it has taken, so an occurrence that begins inside one
is passed over. Neither an owner nor a name holds a slash. So such an occurrence begins in the name
of the reference, and what is left of the name from there is a beginning of the owner
(`Reference.IsReference.overlap`).

Where no end of the expected name is a beginning of the owner, this cannot happen inside a
reference to the expected repository, and the rule is silent just if all occurrences, those that
are passed over included, refer to that repository.
-/

namespace WorkflowLint

/-! ## Slashes -/

theorem Reference.isNameChar_slash : Reference.isNameChar '/' = false := by
  decide

theorem Policy.slash_not_mem_owner (p : Policy) : '/' ∉ p.owner.toList := by
  intro h
  rw [Policy.owner, String.toList_ofList, Policy.ownerOf] at h
  have hne := List.mem_takeWhile_imp h
  simp at hne

namespace Reference

/-! ## Overlaps -/

/-- A name ends as an owner begins. -/
def Overlap (owner name : List Char) : Prop :=
  ∃ part, part ≠ [] ∧ part <:+ name ∧ part <+: owner

theorem overlap_iff_tails (owner name : List Char) :
    Overlap owner name ↔ ∃ part ∈ name.tails, part ≠ [] ∧ part <+: owner := by
  constructor
  · rintro ⟨part, hne, hname, howner⟩
    exact ⟨part, (List.mem_tails _ _).2 hname, hne, howner⟩
  · rintro ⟨part, hname, hne, howner⟩
    exact ⟨part, hne, (List.mem_tails _ _).1 hname, howner⟩

instance (owner name : List Char) : Decidable (Overlap owner name) :=
  decidable_of_iff _ (overlap_iff_tails owner name).symm

variable {owner text name : List Char} {s : Span} {i : Nat}

/-- What holds no slash and stands where an owner and a slash stand is a beginning of the owner. -/
theorem prefix_of_append_eq {part after more : List Char} (hpart : '/' ∉ part)
    (h : part ++ after = owner ++ '/' :: more) : part <+: owner := by
  rcases List.append_eq_append_iff.1 h with ⟨rest, hrest, _⟩ | ⟨rest, hrest, hslash⟩
  · exact ⟨rest, hrest.symm⟩
  · cases rest with
    | nil =>
        rw [hrest, List.append_nil]
    | cons d rest =>
        -- the slash would stand in the part
        have hd : '/' = d := (List.cons.inj hslash).1
        refine absurd ?_ hpart
        rw [hrest, ← hd]
        simp

/-- Behind the start of an owner and a slash, the owner and a slash begin after the first slash. -/
theorem length_lt_of_drop_eq {after more : List Char} {j : Nat} (howner : '/' ∉ owner) (hj : 0 < j)
    (h : (owner ++ '/' :: after).drop j = owner ++ '/' :: more) : owner.length < j := by
  by_cases hlt : owner.length < j
  · exact hlt
  · -- the first slash would stand in the second owner
    have hat := congrArg (fun l => l[owner.length - j]?) h
    rw [List.getElem?_drop, List.getElem?_append_right (by omega),
      List.getElem?_append_left (by omega),
      show j + (owner.length - j) - owner.length = 0 by omega] at hat
    exact absurd (List.mem_of_getElem? hat.symm) howner

/-- The name of a reference holds no slash. -/
theorem IsReference.slash_not_mem_name (hs : IsReference owner text s)
    (hname : s.slice text = owner ++ '/' :: name) : '/' ∉ name := by
  rcases hs.shape with ⟨name', hname', _, hchars⟩
  have hsame := List.append_cancel_left (hname.symm.trans hname')
  cases hsame
  intro hslash
  have hfalse := hchars '/' hslash
  rw [isNameChar_slash] at hfalse
  cases hfalse

/-- An occurrence that begins inside a reference begins in its name, with characters in which the
name ends and the owner begins. -/
theorem IsReference.overlap (hs : IsReference owner text s)
    (hname : s.slice text = owner ++ '/' :: name) (hi : OccursAt owner text i)
    (howner : '/' ∉ owner) (hstart : s.start < i) (hstop : i < s.stop) : Overlap owner name := by
  rcases hi with ⟨c, rest, hocc, _⟩
  have hlen : s.length = owner.length + (name.length + 1) := by
    rw [hs.length_eq, ← hs.slice_eq, hname, List.length_append, List.length_cons]
  have hstop' : i < s.start + s.length := hstop
  have hdrop : (owner ++ '/' :: (name ++ text.drop s.stop)).drop (i - s.start) =
      owner ++ '/' :: c :: rest := by
    rw [← hocc, show i = s.start + (i - s.start) by omega, ← List.drop_drop,
      ← s.slice_append_drop text, hname]
    simp
  have hbehind := length_lt_of_drop_eq howner (by omega) hdrop
  have hm : ∃ m, i - s.start = owner.length + 1 + m :=
    ⟨i - s.start - (owner.length + 1), by omega⟩
  rcases hm with ⟨m, hm⟩
  have hpart : name.drop m ++ text.drop s.stop = owner ++ '/' :: c :: rest := by
    rw [← hdrop, hm, ← List.drop_drop, ← List.drop_append_of_le_length (by omega)]
    congr 1
    simp
  have hne : name.drop m ≠ [] := by
    intro hnil
    rw [List.drop_eq_nil_iff] at hnil
    omega
  refine ⟨_, hne, List.drop_suffix _ _, prefix_of_append_eq ?_ hpart⟩
  intro hslash
  exact hs.slash_not_mem_name hname (List.mem_of_mem_drop hslash)

end Reference

/-! ## The rule -/

namespace RepoReferences

open Reference (Covers OccursAt Overlap textAt)

variable {p : Policy} {w : Workflow} {spans : List Span} {s : Span}

/-- The rule is silent if all references of the cover are to the expected repository. -/
theorem check_eq_nil_iff_of_covers (h : Covers p.owner.toList w.source.toList 0 spans) :
    rule.check w p = [] ↔ ∀ s ∈ spans, s.text w.source = p.expectedRepo := by
  rw [check_eq_of_covers h, List.map_eq_nil_iff, List.filter_eq_nil_iff]
  simp

/-- A reference of the cover to another repository is reported. -/
theorem incorrect_mem_check (h : Covers p.owner.toList w.source.toList 0 spans) (hs : s ∈ spans)
    (hother : s.text w.source ≠ p.expectedRepo) :
    incorrect p.expectedRepo (s.text w.source) ∈ rule.check w p := by
  rw [check_eq_of_covers h]
  refine List.mem_map.2 ⟨s, List.mem_filter.2 ⟨hs, ?_⟩, rfl⟩
  simpa using hother

/-- Where no end of the expected name is a beginning of its owner, an occurrence at which no
reference of the cover begins lies inside one to another repository. -/
theorem exists_other_of_passed {name : List Char} {i : Nat}
    (hrepo : p.expectedRepo.toList = p.owner.toList ++ '/' :: name)
    (hname : ¬ Overlap p.owner.toList name)
    (h : Covers p.owner.toList w.source.toList 0 spans)
    (hi : OccursAt p.owner.toList w.source.toList i) (hpassed : ∀ s ∈ spans, s.start ≠ i) :
    ∃ s ∈ spans, s.start < i ∧ i < s.stop ∧ s.text w.source ≠ p.expectedRepo := by
  rcases h.complete i (Nat.zero_le i) hi with ⟨s, hs, hle, hlt⟩
  have hstart : s.start < i := Nat.lt_of_le_of_ne hle (hpassed s hs)
  refine ⟨s, hs, hstart, hlt, ?_⟩
  intro hexpected
  have hslice : s.slice w.source.toList = p.owner.toList ++ '/' :: name := by
    rw [← hrepo, ← hexpected, Span.text, String.toList_ofList]
  exact hname ((h.references s hs).overlap hslice hi p.slash_not_mem_owner hstart hlt)

/-- Where no end of the expected name is a beginning of its owner, the rule is silent just if every
occurrence refers to the expected repository, wherever it stands: one at which no reference begins
lies inside a reference that is reported. -/
theorem check_eq_nil_iff_occurrences (p : Policy) (w : Workflow) (name : List Char)
    (hrepo : p.expectedRepo.toList = p.owner.toList ++ '/' :: name)
    (hname : ¬ Overlap p.owner.toList name) :
    (rule.check w p = [] ↔ ∀ i, OccursAt p.owner.toList w.source.toList i →
      String.ofList (textAt p.owner.toList w.source.toList i) = p.expectedRepo) ∧
    ∀ spans, Covers p.owner.toList w.source.toList 0 spans →
      ∀ i, OccursAt p.owner.toList w.source.toList i → (∀ s ∈ spans, s.start ≠ i) →
        ∃ s ∈ spans, s.start < i ∧ i < s.stop ∧
          incorrect p.expectedRepo (s.text w.source) ∈ rule.check w p := by
  have hpassed : ∀ spans, Covers p.owner.toList w.source.toList 0 spans →
      ∀ i, OccursAt p.owner.toList w.source.toList i → (∀ s ∈ spans, s.start ≠ i) →
        ∃ s ∈ spans, s.start < i ∧ i < s.stop ∧
          incorrect p.expectedRepo (s.text w.source) ∈ rule.check w p := by
    intro spans hspans i hi hstarts
    rcases exists_other_of_passed hrepo hname hspans hi hstarts with ⟨s, hs, hlt, hstop, hother⟩
    exact ⟨s, hs, hlt, hstop, incorrect_mem_check hspans hs hother⟩
  refine ⟨?_, hpassed⟩
  rcases Reference.exists_covers_findAll p.owner w.source with ⟨spans, hspans, _⟩
  rw [check_eq_nil_iff_of_covers hspans]
  constructor
  · intro hall i hi
    by_cases hstart : ∃ s ∈ spans, s.start = i
    · rcases hstart with ⟨s, hs, rfl⟩
      rw [← (hspans.references s hs).slice_eq]
      exact hall s hs
    · push Not at hstart
      rcases exists_other_of_passed hrepo hname hspans hi hstart with ⟨s, hs, _, _, hother⟩
      exact absurd (hall s hs) hother
  · intro hall s hs
    have href := hspans.references s hs
    rw [Span.text, href.slice_eq]
    exact hall s.start href.occursAt

/-- The standard policy is such a policy. Here the reference that names the expected repository is
passed over, inside one that is reported. -/
theorem check_eq_nil_iff_occurrences_standard :
    Policy.standard.expectedRepo.toList =
        Policy.standard.owner.toList ++ '/' :: "MediaMaid".toList ∧
      ¬ Overlap Policy.standard.owner.toList "MediaMaid".toList ∧
      (rule.check ⟨[], false, "maceip/maceip/MediaMaid"⟩ Policy.standard = [] ↔
        ∀ i, OccursAt Policy.standard.owner.toList "maceip/maceip/MediaMaid".toList i →
          String.ofList (textAt Policy.standard.owner.toList "maceip/maceip/MediaMaid".toList i) =
            Policy.standard.expectedRepo) := by
  have hrepo : Policy.standard.expectedRepo.toList =
      Policy.standard.owner.toList ++ '/' :: "MediaMaid".toList := by
    decide
  have hname : ¬ Overlap Policy.standard.owner.toList "MediaMaid".toList := by
    decide
  exact ⟨hrepo, hname, (check_eq_nil_iff_occurrences Policy.standard
    ⟨[], false, "maceip/maceip/MediaMaid"⟩ "MediaMaid".toList hrepo hname).1⟩

end RepoReferences

end WorkflowLint
