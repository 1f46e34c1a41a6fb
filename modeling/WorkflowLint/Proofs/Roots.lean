import WorkflowLint.Proofs.Yaml.Reading
import WorkflowLint.Workflow.Document

/-!
# Roots — which values are refused as the root of a workflow

Views look through tags, but the value at the root is looked at as it is: only a mapping without a
tag is a root. A root under a tag is refused with the kind of what stands behind the tag, be it a
mapping or a null (`Workflow.parse_eq_notAMapping_iff`). So the message may say that a mapping was
found where a mapping is asked for (`Workflow.tagged_mapping_refused`). For all other texts the
root is judged as the views see it (`Workflow.RootBehindTags`).
-/

namespace WorkflowLint

open Yaml (Value)

/-- The value stands under at least one tag. -/
def Yaml.Value.isTagged : Value → Bool
  | .tagged _ _ => true
  | _ => false

namespace View

/-- Mappings and nulls are what a root without a tag is not refused for. -/
def IsMappingOrNull (v : View) : Prop :=
  (∃ entries, v = .mapping entries) ∨ v = .null

theorem kind_eq_mapping_iff (v : View) : v.kind = "mapping" ↔ ∃ entries, v = .mapping entries := by
  cases v <;> simp [kind]

end View

namespace Workflow

variable {source : String} {v : Value} {kind : String}

theorem parse_of_value (hvalue : Value.parse source = .ok v) :
    parse source = if Text.isBlankText source then .error .empty else ofValue source v := by
  rw [parse, hvalue]

theorem ofValue_eq_notAMapping_iff (source : String) (v : Value) (kind : String) :
    ofValue source v = .error (.notAMapping kind) ↔
      (View.ofValue v).kind = kind ∧
        (v.isTagged = true ∨ ¬ (View.ofValue v).IsMappingOrNull) := by
  cases v <;> simp [ofValue, View.ofValue, Value.isTagged, View.IsMappingOrNull]

theorem ofValue_eq_empty_iff (source : String) (v : Value) :
    ofValue source v = .error .empty ↔ v = .null := by
  cases v <;> simp [ofValue]

theorem eq_null_of_isTagged_eq_false (h : v.isTagged = false) (hnull : View.ofValue v = .null) :
    v = .null := by
  cases v <;> simp_all [View.ofValue, Value.isTagged]

theorem parse_eq_notAMapping_of_value (hvalue : Value.parse source = .ok v) :
    parse source = .error (.notAMapping kind) ↔
      Text.isBlankText source = false ∧ (View.ofValue v).kind = kind ∧
        (v.isTagged = true ∨ ¬ (View.ofValue v).IsMappingOrNull) := by
  rw [parse_of_value hvalue, ← ofValue_eq_notAMapping_iff source]
  cases Text.isBlankText source <;> simp

theorem parse_eq_empty_of_value (hvalue : Value.parse source = .ok v) :
    parse source = .error .empty ↔ Text.isBlankText source = true ∨ v = .null := by
  rw [parse_of_value hvalue, ← ofValue_eq_empty_iff source]
  cases Text.isBlankText source <;> simp

/-- The root of a text is judged as the views see it: the text is refused as no mapping only if
the root, behind its tags, is none, and it is refused as empty if the root is null there. -/
structure RootBehindTags (source : String) (v : Value) : Prop where
  no_mapping : ∀ kind, parse source = .error (.notAMapping kind) →
    kind ≠ "mapping" ∧ ∀ entries, View.ofValue v ≠ .mapping entries
  null_empty : View.ofValue v = .null → parse source = .error .empty

theorem RootBehindTags.of_value (hvalue : Value.parse source = .ok v)
    (h : Text.isBlankText source = false → v.isTagged = true →
      ¬ (View.ofValue v).IsMappingOrNull) : RootBehindTags source v where
  no_mapping := by
    intro kind hparse
    rcases (parse_eq_notAMapping_of_value hvalue).1 hparse with ⟨hblank, rfl, hroot⟩
    have hother : ¬ (View.ofValue v).IsMappingOrNull := hroot.elim (h hblank) id
    have hno : ¬ ∃ entries, View.ofValue v = .mapping entries := fun hmapping =>
      hother (.inl hmapping)
    exact ⟨mt (View.kind_eq_mapping_iff _).1 hno, fun entries hv => hno ⟨entries, hv⟩⟩
  null_empty := by
    intro hnull
    rw [parse_eq_empty_of_value hvalue]
    cases hblank : Text.isBlankText source with
    | true =>
        exact .inl rfl
    | false =>
        have htag : v.isTagged = false := by
          rw [← Bool.not_eq_true]
          exact fun htag => h hblank htag (.inr hnull)
        exact .inr (eq_null_of_isTagged_eq_false htag hnull)

theorem not_rootBehindTags (hvalue : Value.parse source = .ok v)
    (hblank : Text.isBlankText source = false) (htag : v.isTagged = true)
    (hroot : (View.ofValue v).IsMappingOrNull) : ¬ RootBehindTags source v := by
  have hrefused := (parse_eq_notAMapping_of_value hvalue).2 ⟨hblank, rfl, .inl htag⟩
  intro h
  rcases hroot with ⟨entries, hmapping⟩ | hnull
  · exact (h.no_mapping _ hrefused).2 entries hmapping
  · have hempty := h.null_empty hnull
    rw [hrefused] at hempty
    cases hempty

/-- Say that a text holds a value. It is refused as no mapping just if it is not blank and its root
is under a tag, or neither a mapping nor null; and as empty just if it is blank, or null without a
tag. So its root is judged as the views see it unless it is a mapping or a null under a tag, and
such a root is refused as no mapping, the message naming the kind mapping or null. -/
theorem parse_eq_notAMapping_iff (hvalue : Value.parse source = .ok v) :
    (∀ kind, parse source = .error (.notAMapping kind) ↔
      Text.isBlankText source = false ∧ (View.ofValue v).kind = kind ∧
        (v.isTagged = true ∨ ¬ (View.ofValue v).IsMappingOrNull)) ∧
    (parse source = .error .empty ↔ Text.isBlankText source = true ∨ v = .null) ∧
    (RootBehindTags source v ↔
      ¬ (Text.isBlankText source = false ∧ v.isTagged = true ∧
        (View.ofValue v).IsMappingOrNull)) ∧
    (parse source = .error (.notAMapping "mapping") ↔
      Text.isBlankText source = false ∧ v.isTagged = true ∧
        ∃ entries, View.ofValue v = .mapping entries) := by
  refine ⟨fun kind => parse_eq_notAMapping_of_value hvalue, parse_eq_empty_of_value hvalue,
    ?_, ?_⟩
  · constructor
    · rintro h ⟨hblank, htag, hroot⟩
      exact not_rootBehindTags hvalue hblank htag hroot h
    · intro h
      exact .of_value hvalue fun hblank htag hroot => h ⟨hblank, htag, hroot⟩
  · rw [parse_eq_notAMapping_of_value hvalue, View.kind_eq_mapping_iff]
    constructor
    · rintro ⟨hblank, hmapping, htag | hother⟩
      · exact ⟨hblank, htag, hmapping⟩
      · exact absurd (.inl hmapping) hother
    · rintro ⟨hblank, htag, hmapping⟩
      exact ⟨hblank, hmapping, .inl htag⟩

/-! ### Roots under a tag -/

/-- A workflow whose root is a mapping under a tag. -/
def taggedSource : String :=
  "!config \x7bon: push\x7d\n"

/-- A text that holds nothing but a null under a tag. -/
def taggedNullSource : String :=
  "!none ~\n"

theorem parse_taggedSource :
    Value.parse taggedSource =
      .ok (.tagged "config" (.mapping [(.string "on", .string "push")])) := by
  apply eq_ok_of_toOption
  decide +kernel

theorem parse_taggedNullSource : Value.parse taggedNullSource = .ok (.tagged "none" .null) := by
  apply eq_ok_of_toOption
  decide +kernel

theorem parse_eq_notAMapping_iff_tagged :
    Value.parse taggedSource =
        .ok (.tagged "config" (.mapping [(.string "on", .string "push")])) ∧
      parse taggedSource = .error (.notAMapping "mapping") := by
  have hrefused := (parse_eq_notAMapping_iff parse_taggedSource).1 "mapping"
  exact ⟨parse_taggedSource, hrefused.2 ⟨by decide, rfl, .inl rfl⟩⟩

/-- The views see a mapping in the one and a null in the other, but the first is refused as a
mapping that is no mapping, and the second not as empty. -/
theorem tagged_mapping_refused :
    (∃ v entries, Value.parse taggedSource = .ok v ∧ View.ofValue v = .mapping entries ∧
        parse taggedSource = .error (.notAMapping "mapping")) ∧
      (∃ v, Value.parse taggedNullSource = .ok v ∧ View.ofValue v = .null ∧
        parse taggedNullSource = .error (.notAMapping "null")) ∧
      ¬ ∀ source v, Value.parse source = .ok v → RootBehindTags source v := by
  have hmapping : parse taggedSource = .error (.notAMapping "mapping") :=
    (parse_eq_notAMapping_of_value parse_taggedSource).2 ⟨by decide, rfl, .inl rfl⟩
  have hnull : parse taggedNullSource = .error (.notAMapping "null") :=
    (parse_eq_notAMapping_of_value parse_taggedNullSource).2 ⟨by decide, rfl, .inl rfl⟩
  refine ⟨⟨_, _, parse_taggedSource, rfl, hmapping⟩, ⟨_, parse_taggedNullSource, rfl, hnull⟩, ?_⟩
  intro h
  exact ((h _ _ parse_taggedSource).no_mapping _ hmapping).2 _ rfl

end Workflow

end WorkflowLint
