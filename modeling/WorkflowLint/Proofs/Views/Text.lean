import WorkflowLint.Proofs.Numerals
import WorkflowLint.Workflow.View

/-!
# Words — which views have a word as their text

Different views can have one text. A word that begins with a letter and spells no truth value is
the text of one view only, the string (`View.text_eq_iff`): the texts of numbers begin otherwise,
and those of collections with a bracket or a brace.
-/

namespace WorkflowLint
namespace View

open Yaml (Value Number)

/-! ## Texts of values -/

theorem text_ofValue (v : Value) : (ofValue v).text = textOfValue v := by
  cases v with
  | tagged _ v =>
      simpa only [ofValue, textOfValue] using text_ofValue v
  | mapping entries =>
      rfl
  | _ =>
      simp only [ofValue, text, textOfValue]

theorem textsOfItems_eq_map (items : List Value) :
    textsOfItems items = items.map fun v => (ofValue v).text := by
  induction items with
  | nil =>
      rfl
  | cons v items ih =>
      rw [textsOfItems, ih, List.map_cons, text_ofValue]

theorem textsOfEntries_eq_map (entries : List (Value × Value)) :
    textsOfEntries entries =
      entries.map fun e => (ofValue e.1).text ++ ": " ++ (ofValue e.2).text := by
  induction entries with
  | nil =>
      rfl
  | cons e entries ih =>
      rw [textsOfEntries, ih, List.map_cons, text_ofValue, text_ofValue]

/-! ## Words -/

/-- A word that begins with a letter and spells no truth value. -/
structure IsWord (word : String) : Prop where
  leads : Leads Char.isAlpha word
  not_bool : ∀ b : Bool, toString b ≠ word

variable {word s : String}

/-- A text that begins with anything but a letter is no word. -/
theorem IsWord.ne_of_leads (hword : IsWord word) (h : Leads (fun c => !c.isAlpha) s) :
    s ≠ word := by
  refine h.ne hword.leads ?_
  intro c hc
  simpa using hc

theorem IsWord.empty_ne (hword : IsWord word) : "" ≠ word := by
  rintro rfl
  rcases hword.leads with ⟨c, hc, _⟩
  simp at hc

theorem not_isAlpha_of_isDigit {c : Char} (h : c.isDigit = true) : ¬ c.isAlpha = true := by
  intro hletter
  have hle : c.val ≤ 57 := of_decide_eq_true ((Bool.and_eq_true _ _).mp h).2
  -- both cases of letters lie above the digits
  rcases (Bool.or_eq_true _ _).mp hletter with hupper | hlower
  · have hge : 65 ≤ c.val := (of_decide_eq_true hupper).1
    exact absurd (UInt32.le_trans hge hle) (by decide)
  · have hge : 97 ≤ c.val := of_decide_eq_true ((Bool.and_eq_true _ _).mp hlower).1
    exact absurd (UInt32.le_trans hge hle) (by decide)

theorem leads_text_number (n : Number) : Leads (fun c => !c.isAlpha) n.text := by
  rcases n.leads_text with ⟨c, hc, hlead⟩
  refine ⟨c, hc, ?_⟩
  simp only [Number.isLead, Bool.or_eq_true, beq_iff_eq] at hlead
  rcases hlead with (hdigit | rfl) | rfl
  · simpa using not_isAlpha_of_isDigit hdigit
  · decide
  · decide

/-- Only a string has a word as its text. -/
theorem text_eq_iff (hword : IsWord word) (v : View) : v.text = word ↔ v = .string word := by
  cases v with
  | mapping entries =>
      -- its text begins with a brace
      have hne : text (.mapping entries) ≠ word := by
        rw [text, textOfValue]
        exact hword.ne_of_leads ((Leads.append ⟨_, rfl, rfl⟩ _).append _)
      simp [hne]
  | sequence items =>
      -- its text begins with a bracket
      have hne : text (.sequence items) ≠ word := by
        rw [text, textOfValue]
        exact hword.ne_of_leads ((Leads.append ⟨_, rfl, rfl⟩ _).append _)
      simp [hne]
  | string s =>
      simp [text]
  | number n =>
      have hne : text (.number n) ≠ word := hword.ne_of_leads (leads_text_number n)
      simp [hne]
  | bool b =>
      have hne : text (.bool b) ≠ word := hword.not_bool b
      simp [hne]
  | null =>
      have hne : text .null ≠ word := hword.empty_ne
      simp [hne]
  | absent =>
      have hne : text .absent ≠ word := hword.empty_ne
      simp [hne]

/-- A word is among the texts of a view just if the view is that string, or a sequence with that
string among its items. -/
theorem mem_strings_iff (hword : IsWord word) (v : View) :
    word ∈ v.strings ↔ v = .string word ∨ .string word ∈ v.items := by
  have hscalar : word ∈ [v.text] ↔ v = .string word := by
    rw [List.mem_singleton, eq_comm, text_eq_iff hword]
  cases v with
  | sequence items =>
      simp only [strings, textsOfItems_eq_map, View.items, List.mem_map, text_eq_iff hword]
      simp
  | string s =>
      simpa [strings, View.items] using hscalar
  | number n =>
      simpa [strings, View.items] using hscalar
  | bool b =>
      simpa [strings, View.items] using hscalar
  | mapping entries =>
      simp [strings, View.items]
  | null =>
      simp [strings, View.items]
  | absent =>
      simp [strings, View.items]

end View
end WorkflowLint
