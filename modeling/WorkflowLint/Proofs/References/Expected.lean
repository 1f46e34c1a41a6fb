import WorkflowLint.Policy.Decode
import WorkflowLint.Proofs.References.Overlap
import WorkflowLint.Proofs.Yaml.Reading
import WorkflowLint.Workflow.Document

/-!
# Expected references — when the one allowed reference is reported

A policy is accepted with any name that holds no slash, while a reference goes only as far as name
characters go. The two agree on names made of name characters. This module says what the rule does
with a text in which the owner and a slash stand only where the expected repository stands whole:

* `Reference.LeadsAt` and `Reference.StandsAt` — where an owner and a slash, and where a
  repository as a whole, stand in a text;
* `Reference.readable` — the part of a name that a reference can hold;
* `RepoReferences.check_eq_nil_iff_readable` — the rule is silent about such a text just if all of
  the expected name is readable or nothing of it, or the text does not mention the owner.

So a name with a dot in it is accepted, and then every mention of it is reported
(`RepoReferences.allowed_reference_reported`).
-/

namespace WorkflowLint

/-! ## Accepted policies -/

namespace Policy

variable {content : String} {p : Policy}

/-- A repository is an owner and a name, neither of them empty, and the name has no slash. -/
theorem isRepo_iff (repo : String) :
    isRepo repo = true ↔ ∃ name, repo.toList = ownerOf repo.toList ++ '/' :: name ∧
      ownerOf repo.toList ≠ [] ∧ name ≠ [] ∧ '/' ∉ name := by
  have hsplit : ownerOf repo.toList ++ repo.toList.dropWhile (· != '/') = repo.toList :=
    List.takeWhile_append_dropWhile
  have hhead := List.head?_dropWhile_not (· != '/') repo.toList
  unfold isRepo
  cases hdrop : repo.toList.dropWhile (· != '/') with
  | nil =>
      rw [hdrop, List.append_nil] at hsplit
      simp [hsplit]
  | cons c name =>
      -- what is behind the owner begins with the slash
      have hc : c = '/' := by
        simpa [hdrop] using hhead
      subst hc
      rw [hdrop] at hsplit
      constructor
      · intro h
        exact ⟨name, hsplit.symm, by simpa [and_assoc] using h⟩
      · rintro ⟨name', hname', howner, hne, hslash⟩
        have hsame := List.append_cancel_left (hsplit.trans hname')
        cases hsame
        simp [howner, hne, hslash]

theorem isRepo_of_parse (h : parse content = .ok p) : isRepo p.expectedRepo = true := by
  unfold parse at h
  split at h
  · -- a blank text gives the standard policy
    cases h
    decide
  · cases hfields : overrides content with
    | error cause =>
        simp [hfields] at h
    | ok o =>
        simp only [hfields] at h
        split at h
        · next hrepo =>
          cases h
          exact hrepo
        · cases h

theorem ownerOf_expectedRepo (p : Policy) : ownerOf p.expectedRepo.toList = p.owner.toList := by
  rw [owner, String.toList_ofList]

end Policy

namespace Reference

/-! ## Mentions of an owner and of a repository -/

/-- The owner and a slash stand in sequence at a position. -/
def LeadsAt (owner text : List Char) (i : Nat) : Prop :=
  owner ++ ['/'] <+: text.drop i

/-- The repository stands at a position, and no name character follows it. -/
def StandsAt (repo text : List Char) (i : Nat) : Prop :=
  repo <+: text.drop i ∧ ∀ c ∈ text[i + repo.length]?, isNameChar c = false

instance (owner text : List Char) (i : Nat) : Decidable (LeadsAt owner text i) :=
  inferInstanceAs (Decidable (_ <+: _))

instance (repo text : List Char) (i : Nat) : Decidable (StandsAt repo text i) :=
  -- to decide this by going through all characters would take too long
  have : Decidable (∀ c ∈ text[i + repo.length]?, isNameChar c = false) :=
    Option.decidableForallMem _
  inferInstanceAs (Decidable (_ ∧ _))

/-- As much of a name as a reference holds of it. -/
def readable (name : List Char) : List Char :=
  name.takeWhile isNameChar

variable {owner text name : List Char} {i : Nat}

theorem LeadsAt.lt_length (h : LeadsAt owner text i) : i < text.length := by
  have hle := h.length_le
  simp only [List.length_append, List.length_singleton, List.length_drop] at hle
  omega

/-- Where a repository stands, its name and something that does not go on with it. -/
theorem StandsAt.split (h : StandsAt (owner ++ '/' :: name) text i) :
    ∃ after, text.drop i = owner ++ '/' :: (name ++ after) ∧
      ∀ c, after.head? = some c → isNameChar c = false := by
  rcases h with ⟨⟨after, hdrop⟩, hafter⟩
  refine ⟨after, by simpa using hdrop.symm, ?_⟩
  intro c hc
  apply hafter
  rw [Option.mem_def, ← hc, ← List.getElem?_drop, ← hdrop,
    List.getElem?_append_right (Nat.le_refl _), Nat.sub_self, List.head?_eq_getElem?]

/-- Where the repository stands, the text of the occurrence is what is readable of it. -/
theorem StandsAt.textAt_eq (h : StandsAt (owner ++ '/' :: name) text i) :
    textAt owner text i = owner ++ '/' :: readable name := by
  rcases h.split with ⟨after, hdrop, hafter⟩
  rw [textAt, drop_lead hdrop, takeWhile_append_of_head? hafter, readable]

/-- Where the repository stands, there is an occurrence just if something of its name is
readable. -/
theorem StandsAt.occursAt_iff (h : StandsAt (owner ++ '/' :: name) text i) :
    OccursAt owner text i ↔ readable name ≠ [] := by
  constructor
  · intro hocc
    rcases hocc.split with ⟨part, _, _, htext, hne, _, _⟩
    rw [h.textAt_eq] at htext
    have hsame := List.append_cancel_left htext
    cases hsame
    exact hne
  · intro hne
    rcases h.split with ⟨after, hdrop, _⟩
    cases name with
    | nil =>
        exact absurd rfl hne
    | cons c name =>
        refine ⟨c, name ++ after, hdrop, ?_⟩
        by_contra hc
        exact hne (by simp [readable, hc])

theorem OccursAt.leadsAt (h : OccursAt owner text i) : LeadsAt owner text i := by
  rcases h with ⟨c, rest, hdrop, _⟩
  exact ⟨c :: rest, by rw [hdrop]; simp⟩

end Reference

/-! ## The rule -/

namespace RepoReferences

open Reference (Covers LeadsAt StandsAt readable)

variable {p : Policy} {w : Workflow} {name : List Char}

/-- Where the owner leads only to the expected repository, a reference of the cover holds what is
readable of it. -/
theorem text_eq_of_standsAt {spans : List Span} {s : Span}
    (hrepo : p.expectedRepo.toList = p.owner.toList ++ '/' :: name)
    (hsource : ∀ i, LeadsAt p.owner.toList w.source.toList i →
      StandsAt p.expectedRepo.toList w.source.toList i)
    (h : Covers p.owner.toList w.source.toList 0 spans) (hs : s ∈ spans) :
    readable name ≠ [] ∧
      s.text w.source = String.ofList (p.owner.toList ++ '/' :: readable name) := by
  have href := h.references s hs
  have hstands := hsource s.start href.occursAt.leadsAt
  rw [hrepo] at hstands
  refine ⟨hstands.occursAt_iff.1 href.occursAt, ?_⟩
  rw [Span.text, href.slice_eq, hstands.textAt_eq]

/-- Say that a policy is accepted, and that in a text the owner and a slash stand only where the
expected repository stands whole. Then the rule is silent just if all of the expected name is
readable or nothing of it, or if the owner is not mentioned. Otherwise it reports all mentions,
each as a reference to what is readable of the expected repository. -/
theorem check_eq_nil_iff_readable {content : String} (hparse : Policy.parse content = .ok p)
    (hsource : ∀ i, LeadsAt p.owner.toList w.source.toList i →
      StandsAt p.expectedRepo.toList w.source.toList i) :
    ∃ name, p.expectedRepo.toList = p.owner.toList ++ '/' :: name ∧ name ≠ [] ∧ '/' ∉ name ∧
      (rule.check w p = [] ↔ readable name = name ∨ readable name = [] ∨
        ∀ i, ¬ LeadsAt p.owner.toList w.source.toList i) ∧
      ∀ d ∈ rule.check w p, d = incorrect p.expectedRepo
        (String.ofList (p.owner.toList ++ '/' :: readable name)) := by
  rcases (Policy.isRepo_iff _).1 (Policy.isRepo_of_parse hparse) with ⟨name, hrepo, _, hne, hslash⟩
  rw [Policy.ownerOf_expectedRepo] at hrepo
  rcases Reference.exists_covers_findAll p.owner w.source with ⟨spans, hspans, _⟩
  have htext : ∀ s ∈ spans, _ := fun s hs => text_eq_of_standsAt hrepo hsource hspans hs
  refine ⟨name, hrepo, hne, hslash, ?_, ?_⟩
  · rw [check_eq_nil_iff_of_covers hspans]
    constructor
    · intro hexpected
      by_cases hpart : readable name = []
      · exact .inr (.inl hpart)
      by_cases hleads : ∀ i, ¬ LeadsAt p.owner.toList w.source.toList i
      · exact .inr (.inr hleads)
      -- a mention of the owner lies in a reference, which is the expected repository
      push Not at hleads
      rcases hleads with ⟨i, hi⟩
      have hstands := hsource i hi
      rw [hrepo] at hstands
      rcases hspans.complete i (Nat.zero_le i) (hstands.occursAt_iff.2 hpart) with ⟨s, hs, _⟩
      have hsame := congrArg String.toList ((htext s hs).2.symm.trans (hexpected s hs))
      rw [String.toList_ofList, hrepo] at hsame
      exact .inl (List.cons.inj (List.append_cancel_left hsame)).2
    · intro hread s hs
      rcases htext s hs with ⟨hpart, hsame⟩
      rcases hread with hall | hnone | hno
      · rw [hsame, hall, ← hrepo, String.ofList_toList]
      · exact absurd hnone hpart
      · exact absurd (hspans.references s hs).occursAt.leadsAt (hno s.start)
  · intro d hd
    rw [check_eq_of_covers hspans] at hd
    rcases List.mem_map.1 hd with ⟨s, hs, rfl⟩
    rw [(htext s (List.mem_filter.1 hs).1).2]

/-! ### A name with a dot -/

/-- A policy whose expected name has a dot in it. -/
def dotted : Policy :=
  { Policy.standard with expectedRepo := "octo/app.js" }

/-- A text that gives this policy. -/
def dottedContent : String :=
  "expected_repo: octo/app.js\n"

/-- A workflow that mentions the repository, and no other one of its owner. -/
def dottedSource : String :=
  "name: octo/app.js\n"

theorem parse_dottedContent : Policy.parse dottedContent = .ok dotted := by
  apply eq_ok_of_toOption
  decide +kernel

theorem standsAt_dottedSource :
    ∀ i, LeadsAt dotted.owner.toList dottedSource.toList i →
      StandsAt dotted.expectedRepo.toList dottedSource.toList i := by
  intro i hi
  have hall : ∀ i ∈ List.range dottedSource.toList.length,
      LeadsAt dotted.owner.toList dottedSource.toList i →
        StandsAt dotted.expectedRepo.toList dottedSource.toList i := by
    decide +kernel
  exact hall i (List.mem_range.2 hi.lt_length) hi

theorem exists_parse_dottedSource :
    ∃ w, Workflow.parse dottedSource = .ok w ∧ w.source = dottedSource := by
  have hvalue : (Workflow.parse dottedSource).toOption.map Workflow.source =
      some dottedSource := by
    decide +kernel
  rcases Option.map_eq_some_iff.1 hvalue with ⟨w, hw, hsource⟩
  exact ⟨w, eq_ok_of_toOption hw, hsource⟩

/-- With this policy, the rule reports the workflow. -/
theorem check_eq_nil_iff_readable_dotted :
    Policy.parse dottedContent = .ok dotted ∧
      (∀ i, LeadsAt dotted.owner.toList dottedSource.toList i →
        StandsAt dotted.expectedRepo.toList dottedSource.toList i) ∧
      ∃ name, dotted.expectedRepo.toList = dotted.owner.toList ++ '/' :: name ∧
        (rule.check ⟨[], false, dottedSource⟩ dotted = [] ↔
          readable name = name ∨ readable name = [] ∨
            ∀ i, ¬ LeadsAt dotted.owner.toList dottedSource.toList i) := by
  rcases check_eq_nil_iff_readable (w := ⟨[], false, dottedSource⟩) parse_dottedContent
    standsAt_dottedSource with ⟨name, hrepo, _, _, hiff, _⟩
  exact ⟨parse_dottedContent, standsAt_dottedSource, name, hrepo, hiff⟩

/-- The policy is accepted, and the workflow mentions nothing but the expected repository, but the
rule takes the mention for one of another repository. -/
theorem allowed_reference_reported :
    Policy.parse dottedContent = .ok dotted ∧
      ∃ w, Workflow.parse dottedSource = .ok w ∧
        (∀ i, LeadsAt dotted.owner.toList w.source.toList i →
          StandsAt dotted.expectedRepo.toList w.source.toList i) ∧
        rule.check w dotted = [incorrect "octo/app.js" "octo/app"] := by
  rcases exists_parse_dottedSource with ⟨w, hparse, hsource⟩
  refine ⟨parse_dottedContent, w, hparse, ?_, ?_⟩
  · rw [hsource]
    exact standsAt_dottedSource
  · show checkSource dotted w.source = _
    rw [hsource]
    decide +kernel

end RepoReferences

end WorkflowLint
