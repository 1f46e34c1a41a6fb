import Mathlib.Logic.ExistsUnique
import WorkflowLint.Proofs.Policies.Fields
import WorkflowLint.Proofs.References.Expected
import WorkflowLint.Proofs.Yaml.Blank
import WorkflowLint.Run

/-!
# Overlays — the policy that a file gives

A policy file is read if each of its entries names a field, none twice, with a value of its type
(`Policy.Readable`). Then there is one policy with these values and the standard ones elsewhere
(`Policy.IsOverlay`). It is accepted if its repository, given or standard, is an owner and a name
with one slash between (`Policy.IsOwnerSlashName`). In any other case nothing of it is left, only a
failure that tells the location of the file (`Check.policyOfContents_overlay`).
-/

namespace WorkflowLint

open Yaml

namespace Policy

variable {d : Document}

/-- Each entry at the root of a document names a field, and none twice, and its value is of the type
of the field. -/
structure Readable (d : Document) : Prop where
  given : ∀ e ∈ d.entries, ∃ f : Field, d.text? e.1 = some f.name ∧ (f.valueIn? d e.2).isSome
  distinct : (d.entries.map fun e => d.text? e.1).Nodup

/-- The fields that are named have the values that are given, and all others those of the standard
policy. -/
structure IsOverlay (d : Document) (p : Policy) : Prop where
  given : ∀ e ∈ d.entries, ∀ f : Field, d.text? e.1 = some f.name →
    f.valueIn? d e.2 = some (p.value f)
  others : ∀ f : Field, (∀ e ∈ d.entries, d.text? e.1 ≠ some f.name) →
    p.value f = standard.value f

theorem ext_value {p q : Policy} (h : ∀ f, p.value f = q.value f) : p = q := by
  rcases p with ⟨path, repo, package, runner, jdks⟩
  rcases q with ⟨path', repo', package', runner', jdks'⟩
  have hpath : path = path' := FieldValue.text.inj (h .workflowPath)
  have hrepo : repo = repo' := FieldValue.text.inj (h .expectedRepo)
  have hpackage : package = package' := FieldValue.text.inj (h .expectedPackage)
  have hrunner : runner = runner' := FieldValue.text.inj (h .runnerFamily)
  have hjdks : jdks = jdks' := FieldValue.texts.inj (h .jdkVersions)
  rw [hpath, hrepo, hpackage, hrunner, hjdks]

theorem IsOverlay.unique {p q : Policy} (hp : IsOverlay d p) (hq : IsOverlay d q) : p = q := by
  apply ext_value
  intro f
  by_cases hnamed : ∃ e ∈ d.entries, d.text? e.1 = some f.name
  · rcases hnamed with ⟨e, he, hname⟩
    exact Option.some.inj ((hp.given e he f hname).symm.trans (hq.given e he f hname))
  · have hno : ∀ e ∈ d.entries, d.text? e.1 ≠ some f.name := fun e he hname =>
      hnamed ⟨e, he, hname⟩
    rw [hp.others f hno, hq.others f hno]

theorem Extends.isOverlay {o : Overrides} (h : Extends d .none d.entries o) :
    IsOverlay d (o.apply standard) := by
  constructor
  · intro e he f hname
    rcases h.given e he with ⟨g, x, hname', _, hvalue, hset⟩
    have hfield : g = f := Field.name_injective (Option.some.inj (hname'.symm.trans hname))
    rw [hfield] at hvalue hset
    rw [hvalue, Overrides.value_apply, hset]
    rfl
  · intro f hno
    rw [Overrides.value_apply, h.others f hno, Overrides.value?_none]
    rfl

theorem Readable.exists_extends (h : Readable d) : ∃ o, Extends d .none d.entries o := by
  refine Extends.exists_of_given ?_ h.distinct
  intro e he
  rcases h.given e he with ⟨f, hname, hsome⟩
  rcases Option.isSome_iff_exists.1 hsome with ⟨x, hx⟩
  exact ⟨f, x, hname, Overrides.value?_none f, hx⟩

/-- What can be read is read into the one policy that it overlays the standard one with. -/
theorem exists_extends_iff {p : Policy} :
    (∃ o, Extends d .none d.entries o ∧ p = o.apply standard) ↔ Readable d ∧ IsOverlay d p := by
  constructor
  · rintro ⟨o, h, rfl⟩
    refine ⟨⟨?_, h.distinct⟩, h.isOverlay⟩
    intro e he
    rcases h.given e he with ⟨f, x, hname, _, hvalue, _⟩
    exact ⟨f, hname, by rw [hvalue]; rfl⟩
  · rintro ⟨hreadable, hoverlay⟩
    rcases hreadable.exists_extends with ⟨o, ho⟩
    exact ⟨o, ho, hoverlay.unique ho.isOverlay⟩

/-! ## Repositories -/

/-- An owner and a name with one slash between them; none of the two is empty. -/
def IsOwnerSlashName (repo : String) : Prop :=
  ∃ owner name, repo = owner ++ "/" ++ name ∧ owner ≠ "" ∧ name ≠ "" ∧
    '/' ∉ owner.toList ∧ '/' ∉ name.toList

/-- What a policy calls its owner is what stands before the slash. -/
theorem eq_owner_slash_of_isRepo {p : Policy} (h : isRepo p.expectedRepo = true) :
    p.owner ≠ "" ∧ '/' ∉ p.owner.toList ∧
      ∃ name, p.expectedRepo = p.owner ++ "/" ++ name ∧ name ≠ "" ∧ '/' ∉ name.toList := by
  rcases (isRepo_iff _).1 h with ⟨name, hrepo, howner, hname, hslash⟩
  rw [ownerOf_expectedRepo] at hrepo howner
  refine ⟨?_, p.slash_not_mem_owner, String.ofList name, ?_, ?_, ?_⟩
  · intro hempty
    rw [hempty] at howner
    exact howner rfl
  · rw [← String.toList_inj, hrepo]
    simp
  · intro hempty
    rw [← String.toList_inj, String.toList_ofList] at hempty
    exact hname hempty
  · rwa [String.toList_ofList]

theorem isRepo_iff_isOwnerSlashName (p : Policy) :
    isRepo p.expectedRepo = true ↔ IsOwnerSlashName p.expectedRepo := by
  constructor
  · intro h
    rcases eq_owner_slash_of_isRepo h with ⟨howner, hslash, name, hrepo, hname, hslash'⟩
    exact ⟨p.owner, name, hrepo, howner, hname, hslash, hslash'⟩
  · rintro ⟨owner, name, hrepo, howner, hname, hslash, hslash'⟩
    have hlist : p.expectedRepo.toList = owner.toList ++ '/' :: name.toList := by
      rw [hrepo]
      simp
    have hne : ∀ c ∈ owner.toList, (c != '/') = true := by
      intro c hc
      rw [bne_iff_ne]
      rintro rfl
      exact hslash hc
    have hownerOf : ownerOf p.expectedRepo.toList = owner.toList := by
      rw [hlist, ownerOf, List.takeWhile_append_of_pos hne]
      simp
    rw [isRepo_iff]
    refine ⟨name.toList, by rw [hownerOf, hlist], ?_, ?_, hslash'⟩
    · rw [hownerOf]
      simpa using howner
    · simpa using hname

/-! ## Texts -/

variable {content : String} {entries : List (Value × Value)} {p : Policy}

theorem overrides_eq_ok_iff {o : Overrides} (h : Value.parse content = .ok (.mapping entries)) :
    overrides content = .ok o ↔
      Extends (.ofString content) .none (Document.ofString content).entries o := by
  rcases Value.root_of_ofDocument_eq_mapping h with ⟨_, mark, _, _, _, hroot, hread⟩
  have hdecode : overrides content =
      Prod.fst <$> readEntries (.ofString content) mark .none
        (Document.ofString content).entries 0 :=
    Document.decode_eq_of_decode_eq_ok h hroot _ _
  rw [hdecode]
  constructor
  · intro hmap
    rcases of_map_eq_ok hmap with ⟨⟨o', _⟩, hentries, rfl⟩
    exact ((readEntries_eq_ok_iff hread).1 hentries).2
  · intro hextends
    rw [(readEntries_eq_ok_iff hread).2 ⟨rfl, hextends⟩]
    rfl

theorem parse_eq_ok_iff (hblank : Text.isBlankText content = false) :
    parse content = .ok p ↔
      ∃ o, overrides content = .ok o ∧ p = o.apply standard ∧ isRepo p.expectedRepo = true := by
  have hfilled : ¬ Text.isBlankText content = true := by
    rw [hblank]
    exact Bool.false_ne_true
  rw [parse, if_neg hfilled]
  cases overrides content with
  | error cause =>
      constructor
      · nofun
      · nofun
  | ok o =>
      constructor
      · intro h
        simp only at h
        split at h
        · next hrepo =>
          cases h
          exact ⟨o, rfl, rfl, hrepo⟩
        · cases h
      · rintro ⟨_, ⟨⟩, rfl, hrepo⟩
        simp only [hrepo, if_true]

theorem parse_eq_ok_iff_overlay (h : Value.parse content = .ok (.mapping entries)) :
    parse content = .ok p ↔ Readable (.ofString content) ∧ IsOverlay (.ofString content) p ∧
      IsOwnerSlashName p.expectedRepo := by
  rw [parse_eq_ok_iff (Value.isBlankText_of_parse_mapping h), ← and_assoc, ← exists_extends_iff,
    ← isRepo_iff_isOwnerSlashName]
  constructor
  · rintro ⟨o, ho, hp, hrepo⟩
    exact ⟨⟨o, (overrides_eq_ok_iff h).1 ho, hp⟩, hrepo⟩
  · rintro ⟨⟨o, ho, hp⟩, hrepo⟩
    exact ⟨o, (overrides_eq_ok_iff h).2 ho, hp, hrepo⟩

end Policy

namespace Check

open Policy (Readable IsOverlay IsOwnerSlashName)

theorem policyOfContents_eq_ok_iff {location content : String} {p : Policy} :
    policyOfContents location (.ok content) = .ok p ↔ Policy.parse content = .ok p := by
  rw [policyOfContents]
  cases Policy.parse content with
  | error cause =>
      constructor
      · nofun
      · nofun
  | ok q =>
      show (Except.ok q : Except Failure Policy) = .ok p ↔ _
      rw [Except.ok.injEq, Except.ok.injEq]

theorem policyOfContents_blank {content : String} (h : Text.isBlankText content = true)
    (location : String) : policyOfContents location (.ok content) = .ok .standard := by
  rw [policyOfContents_eq_ok_iff, Policy.parse, if_pos h]

/-- A text that gives no policy is refused, and the refusal tells its location. -/
theorem exists_invalidPolicy {location content : String}
    (h : ∀ p, policyOfContents location (.ok content) ≠ .ok p) :
    ∃ cause, policyOfContents location (.ok content) =
      .error (.invalidPolicy location cause) := by
  cases hparse : Policy.parse content with
  | ok p =>
      exact absurd (policyOfContents_eq_ok_iff.2 hparse) (h p)
  | error cause =>
      refine ⟨cause, ?_⟩
      rw [policyOfContents, hparse]
      rfl

/-- A blank file gives the standard policy. Say that a file holds a mapping whose keys are strings.
Then a policy is read from it just if the file can be read, the policy is the one that overlays the
standard one with what is given, and its repository is an owner and a name. What it calls its owner
is that owner. Otherwise there is no policy but a failure with the location of the file. -/
theorem policyOfContents_overlay (location content : String) :
    (Text.isBlankText content = true →
      policyOfContents location (.ok content) = .ok .standard) ∧
    ∀ entries, Value.parse content = .ok (.mapping entries) →
      (∀ e ∈ entries, ∃ name, e.1 = .string name) →
      (Document.ofString content).HoldsEntries entries ∧
      (Readable (.ofString content) → ∃! p, IsOverlay (.ofString content) p) ∧
      (∀ p, policyOfContents location (.ok content) = .ok p ↔
        Readable (.ofString content) ∧ IsOverlay (.ofString content) p ∧
          IsOwnerSlashName p.expectedRepo) ∧
      (∀ p, policyOfContents location (.ok content) = .ok p →
        p.owner ≠ "" ∧ '/' ∉ p.owner.toList ∧
          ∃ name, p.expectedRepo = p.owner ++ "/" ++ name ∧ name ≠ "" ∧ '/' ∉ name.toList) ∧
      ((∀ p, policyOfContents location (.ok content) ≠ .ok p) →
        ∃ cause, policyOfContents location (.ok content) =
          .error (.invalidPolicy location cause)) := by
  constructor
  · intro hblank
    exact policyOfContents_blank hblank location
  · intro entries hvalue hkeys
    refine ⟨Value.holdsEntries_of_ofDocument hvalue hkeys, ?_, ?_, ?_, exists_invalidPolicy⟩
    · intro hreadable
      rcases hreadable.exists_extends with ⟨o, ho⟩
      exact ⟨_, ho.isOverlay, fun p hp => hp.unique ho.isOverlay⟩
    · intro p
      rw [policyOfContents_eq_ok_iff]
      exact Policy.parse_eq_ok_iff_overlay hvalue
    · intro p hp
      exact Policy.eq_owner_slash_of_isRepo
        (Policy.isRepo_of_parse (policyOfContents_eq_ok_iff.1 hp))

/-! ### A policy file -/

/-- A text that gives two fields. The second version is repeated by an alias. -/
def overlaidContent : String :=
  "jdk_versions: [17, &v 21, *v]\nexpected_repo: octo/app\n"

def overlaidEntries : List (Value × Value) :=
  [(.string "jdk_versions",
      .sequence [.number (.integer 17), .number (.integer 21), .number (.integer 21)]),
    (.string "expected_repo", .string "octo/app")]

def overlaidPolicy : Policy :=
  { Policy.standard with expectedRepo := "octo/app", jdkVersions := ["17", "21", "21"] }

theorem policyOfContents_overlay_overlaidContent :
    Value.parse overlaidContent = .ok (.mapping overlaidEntries) ∧
      (∀ e ∈ overlaidEntries, ∃ name, e.1 = .string name) ∧
      Readable (.ofString overlaidContent) ∧
      IsOverlay (.ofString overlaidContent) overlaidPolicy ∧
      Text.isBlankText "\n" = true ∧
      policyOfContents "policy.yml" (.ok "\n") = .ok .standard := by
  have hvalue : Value.parse overlaidContent = .ok (.mapping overlaidEntries) := by
    apply eq_ok_of_toOption
    decide +kernel
  have hkeys : ∀ e ∈ overlaidEntries, ∃ name, e.1 = .string name := by
    simp [overlaidEntries]
  have hpolicy : policyOfContents "policy.yml" (.ok overlaidContent) = .ok overlaidPolicy := by
    apply eq_ok_of_toOption
    decide +kernel
  have hblank : Text.isBlankText "\n" = true := by
    decide
  rcases (policyOfContents_overlay "policy.yml" overlaidContent).2 _ hvalue hkeys with
    ⟨_, _, hiff, _, _⟩
  rcases (hiff overlaidPolicy).1 hpolicy with ⟨hreadable, hoverlay, _⟩
  exact ⟨hvalue, hkeys, hreadable, hoverlay, hblank,
    (policyOfContents_overlay "policy.yml" "\n").1 hblank⟩

end Check

end WorkflowLint
