import Mathlib
import WorkflowLint.Proofs.Gate
import WorkflowLint.Proofs.Joined

/-!
# Letters — a word in small and in large letters

To find a word in either case, a text is made small first, and only the letters `A` to `Z` are. A
word of small letters is found just if the text spells it, letter by letter in either case
(`Text.contains_lowerLetters_iff`).

Making all characters small could find more: a character may become several, and what it becomes may
depend on its neighbours. This is left open here. All that is asked is that a character other than
`A` to `Z` becomes, if it changes, something without the letters of the word (`Text.LowerForm`).
Then the word is found in the one small text just if it is found in the other
(`Text.contains_lowerLetters_iff_forms`). Of all characters only the Kelvin sign and the dotted
capital I become letters of ASCII, `k` and `i`, and `gradle` has neither.
-/

namespace WorkflowLint

namespace Text

/-! ## Letters in either case -/

/-- A character is a small letter, or the large one that belongs to it. -/
def SameLetter (c letter : Char) : Prop :=
  c = letter ∨ c = letter.toUpper

/-- Just a letter in one of its two cases becomes the small letter. -/
theorem toLower_eq_iff {letter : Char} (hletter : letter.isLower = true) (c : Char) :
    c.toLower = letter ↔ SameLetter c letter := by
  constructor
  · rintro rfl
    by_cases hupper : c.isUpper = true
    · right
      rw [Char.toUpper_toLower_eq_toUpper,
        Char.toUpper_eq_of_not_isLower (Char.not_isLower_of_isUpper hupper)]
    · left
      exact (Char.toLower_eq_of_not_isUpper hupper).symm
  · have hsmall : letter.toLower = letter :=
      Char.toLower_eq_of_not_isUpper (Char.not_isUpper_of_isLower hletter)
    rintro (rfl | rfl)
    · exact hsmall
    · rw [Char.toLower_toUpper_eq_toLower, hsmall]

theorem map_toLower_eq_iff {word : List Char} (hword : ∀ letter ∈ word, letter.isLower = true)
    (part : List Char) : part.map Char.toLower = word ↔ List.Forall₂ SameLetter part word := by
  induction word generalizing part with
  | nil =>
      simp
  | cons letter word ih =>
      cases part with
      | nil =>
          simp
      | cons c part =>
          have hletter := toLower_eq_iff (hword letter List.mem_cons_self) c
          have hrest := ih (fun l hl => hword l (List.mem_cons_of_mem _ hl)) part
          rw [List.map_cons, List.cons.injEq, List.forall₂_cons, hletter, hrest]

/-- Somewhere in a text the letters of a word stand in a row, each in either case. -/
def Spells (s word : String) : Prop :=
  ∃ part, part <:+: s.toList ∧ List.Forall₂ SameLetter part word.toList

/-- A text that is made small holds a word of small letters just if the text spells it. -/
theorem contains_lowerLetters_iff {word : String}
    (hword : ∀ letter ∈ word.toList, letter.isLower = true) (s : String) :
    contains (lowerLetters s) word = true ↔ Spells s word := by
  rw [contains_iff_isInfix, lowerLetters, String.toList_map, List.infix_map_iff, Spells]
  refine exists_congr ?_
  intro part
  rw [eq_comm, map_toLower_eq_iff hword]

/-! ## Other ways to make a text small -/

/-- What a character may become in a small text, seen from a word. -/
inductive LowerForm (word : List Char) (c : Char) : List Char → Prop
  /-- It becomes its small letter, or stays if it is none of `A` to `Z`. -/
  | letter : LowerForm word c [c.toLower]
  /-- It is no letter of the word, and neither is any character of what it becomes. -/
  | other {form : List Char} : form ≠ [] → (∀ x ∈ form, x ∉ word) → c.toLower ∉ word →
      LowerForm word c form

variable {word chars : List Char} {forms : List (List Char)}

theorem prefix_forms_iff (h : List.Forall₂ (LowerForm word) chars forms) {part : List Char}
    (hpart : ∀ x ∈ part, x ∈ word) : part <+: forms.flatten ↔ part <+: chars.map Char.toLower := by
  induction h generalizing part with
  | nil =>
      rfl
  | @cons c form chars forms hform hforms ih =>
      cases part with
      | nil =>
          simp
      | cons x part =>
          have hx : x ∈ word := hpart x List.mem_cons_self
          have hrest := ih fun y hy => hpart y (List.mem_cons_of_mem _ hy)
          rw [List.flatten_cons, List.map_cons]
          cases hform with
          | letter =>
              rw [List.singleton_append, List.cons_prefix_cons, List.cons_prefix_cons, hrest]
          | other hnone hfree hc =>
              -- no part begins with a character that is not in the word
              rcases List.exists_cons_of_ne_nil hnone with ⟨y, form, rfl⟩
              rw [List.cons_append, List.cons_prefix_cons, List.cons_prefix_cons]
              refine iff_of_false ?_ ?_
              · rintro ⟨rfl, _⟩
                exact hfree x List.mem_cons_self hx
              · rintro ⟨rfl, _⟩
                exact hc hx

theorem infix_forms_iff (h : List.Forall₂ (LowerForm word) chars forms) (hword : word ≠ []) :
    word <:+: forms.flatten ↔ word <:+: chars.map Char.toLower := by
  induction h with
  | nil =>
      rfl
  | @cons c form chars forms hform hforms ih =>
      have hstart := prefix_forms_iff (.cons hform hforms) fun _ hx => hx
      rw [List.flatten_cons, List.map_cons] at hstart ⊢
      cases hform with
      | letter =>
          rw [List.singleton_append] at hstart ⊢
          rw [List.infix_cons_iff, List.infix_cons_iff, hstart, ih]
      | other hnone hfree hc =>
          -- the word lies behind what it does not share a character with
          have hflat := infix_append_separator_iff hnone hfree [] forms.flatten
          have hmapped := infix_append_cons_iff hc [] (chars.map Char.toLower)
          rw [List.nil_append, List.infix_nil, or_iff_right hword] at hflat hmapped
          rw [hflat, hmapped, ih]

/-- However the other characters are made small, if this brings no letter of the word, then the word
is found just if it is found with the letters `A` to `Z` made small. -/
theorem contains_lowerLetters_iff_forms {s name : String}
    (h : List.Forall₂ (LowerForm name.toList) s.toList forms) (hname : name ≠ "") :
    contains (lowerLetters s) name = true ↔ name.toList <:+: forms.flatten := by
  have hletters : name.toList ≠ [] := by
    simpa using hname
  rw [contains_iff_isInfix, lowerLetters, String.toList_map, infix_forms_iff h hletters]

/-- What the Kelvin sign and the dotted capital I become has no letter of `gradle` in it. -/
example : LowerForm "gradle".toList '\u212a' ['k'] ∧
    LowerForm "gradle".toList '\u0130' ['i', '\u0307'] :=
  ⟨.other (by simp) (by simp) (by decide), .other (by simp) (by simp) (by decide)⟩

end Text

namespace BuildJob

/-- Gradle is found in an action's name in either case, letter by letter. -/
theorem usesGradle_iff_spells (j : Job) :
    usesGradle j = true ↔
      ∃ step ∈ (j.view.get "steps").items, Text.Spells (step.get "uses").text "gradle" := by
  have hsmall : ∀ letter ∈ "gradle".toList, letter.isLower = true := by
    simp
  simp only [usesGradle_iff, ← Text.contains_iff_isInfix, Text.contains_lowerLetters_iff hsmall]

end BuildJob

end WorkflowLint
