import WorkflowLint.Yaml.Number

/-!
# Numerals — how the texts of numbers begin

Every text of a number begins with a digit, a minus sign or a point (`Yaml.Number.leads_text`). So
no number is ever taken for a word that begins with a letter.
-/

namespace WorkflowLint

/-! ## Decimal numerals -/

theorem isDigit_of_mem_toString {n : Nat} {c : Char} (h : c ∈ (toString n).toList) :
    c.isDigit = true := by
  rw [Nat.toString_eq_repr, Nat.toList_repr] at h
  exact Nat.isDigit_of_mem_toDigits (by decide) (by decide) h

/-- A class of characters that holds the digits holds all characters of a numeral. -/
theorem all_toString {p : Char → Bool} (hdigit : ∀ c : Char, c.isDigit = true → p c = true)
    (n : Nat) : (toString n).toList.all p = true := by
  rw [List.all_eq_true]
  intro c hc
  exact hdigit c (isDigit_of_mem_toString hc)

theorem toList_toString_ne_nil (n : Nat) : (toString n).toList ≠ [] := by
  rw [Nat.toString_eq_repr, Nat.toList_repr]
  exact Nat.toDigits_ne_nil

/-- A numeral begins with a digit. -/
theorem exists_toString_eq_cons (n : Nat) :
    ∃ c digits, (toString n).toList = c :: digits ∧ c.isDigit = true := by
  cases h : (toString n).toList with
  | nil =>
      exact absurd h (toList_toString_ne_nil n)
  | cons c digits =>
      refine ⟨c, digits, rfl, ?_⟩
      apply isDigit_of_mem_toString (n := n)
      rw [h]
      exact List.mem_cons_self

/-- Only the numeral of zero begins with a zero. -/
theorem head?_toString_ne_zero {n : Nat} (h : 0 < n) : (toString n).toList.head? ≠ some '0' := by
  rw [Nat.toString_eq_repr, Nat.toList_repr]
  induction n using Nat.strongRecOn with
  | ind n ih =>
      by_cases hn : n < 10
      · have hdigit : ∀ d, d < 10 → 0 < d → Nat.digitChar d ≠ '0' := by
          decide
        rw [Nat.toDigits_of_lt_base hn, List.head?_cons, ne_eq, Option.some.injEq]
        exact hdigit n hn h
      · -- the digits before the last one are those of a smaller number
        have hsome : (Nat.toDigits 10 (n / 10)).head?.isSome = true :=
          List.isSome_head?.2 Nat.toDigits_ne_nil
        rw [Nat.toDigits_of_base_le (by decide) (Nat.le_of_not_lt hn), List.head?_append,
          Option.or_of_isSome hsome]
        exact ih (n / 10) (by omega) (by omega)

/-- A text begins with a character of a class. -/
def Leads (p : Char → Bool) (s : String) : Prop :=
  ∃ c ∈ s.toList.head?, p c = true

namespace Leads

variable {p : Char → Bool} {s t : String}

theorem append (h : Leads p s) (t : String) : Leads p (s ++ t) := by
  rcases h with ⟨c, hc, hp⟩
  refine ⟨c, ?_, hp⟩
  rw [String.toList_append, List.head?_append, Option.mem_def.1 hc]
  rfl

theorem ofList {c : Char} {rest : List Char} (h : p c = true) :
    Leads p (String.ofList (c :: rest)) :=
  ⟨c, by simp, h⟩

/-- A text does not begin with characters of two classes that share none. -/
theorem ne {q : Char → Bool} (hs : Leads p s) (ht : Leads q t)
    (hpq : ∀ c, p c = true → q c = false) : s ≠ t := by
  rintro rfl
  rcases hs with ⟨c, hc, hp⟩
  rcases ht with ⟨d, hd, hq⟩
  have hcd : c = d := Option.some.inj (hc.symm.trans hd)
  rw [← hcd, hpq c hp] at hq
  cases hq

end Leads

namespace Yaml
namespace Number

/-- A character with which the text of a number can begin. -/
def isLead (c : Char) : Bool :=
  c.isDigit || c == '-' || c == '.'

theorem leads_toString (n : Nat) : Leads isLead (toString n) := by
  rcases exists_toString_eq_cons n with ⟨c, digits, h, hc⟩
  refine ⟨c, ?_, by simp [isLead, hc]⟩
  rw [h]
  rfl

theorem leads_sign (negative : Bool) {s : String} (h : Leads isLead s) :
    Leads isLead (sign negative ++ s) := by
  cases negative with
  | false =>
      simpa [sign] using h
  | true =>
      exact Leads.append ⟨'-', rfl, rfl⟩ s

theorem leads_withPoint (n k : Nat) : Leads isLead (Decimal.withPoint (toString n) k) := by
  unfold Decimal.withPoint
  -- without a digit in front of the point, the text begins with the point
  cases h : (toString n).toList.take k with
  | nil =>
      exact ⟨'.', by simp, rfl⟩
  | cons c rest =>
      have hc : c.isDigit = true := by
        apply isDigit_of_mem_toString (n := n)
        exact List.mem_of_mem_take (by rw [h]; exact List.mem_cons_self)
      exact ((Leads.ofList (by simp [isLead, hc])).append _).append _

theorem leads_positional (d : Decimal) : Leads isLead d.positional := by
  unfold Decimal.positional
  dsimp only
  split
  · exact (leads_toString _).append _
  · split
    · exact leads_withPoint _ _
    · exact Leads.append (Leads.append ⟨'0', rfl, rfl⟩ _) _

theorem leads_scientific (d : Decimal) : Leads isLead d.scientific := by
  unfold Decimal.scientific
  dsimp only
  split
  · split
    · exact (leads_positional d).append _
    · exact leads_positional d
  · refine Leads.append (Leads.append ?_ _) _
    split
    · exact leads_toString _
    · exact leads_withPoint _ _

theorem leads_realText (x : Binary64) : Leads isLead (realText x) := by
  cases x with
  | finite negative m e =>
      cases m with
      | zero =>
          exact leads_sign negative ⟨'0', rfl, rfl⟩
      | succ m =>
          exact leads_sign negative (leads_scientific _)
  | infinite negative =>
      exact leads_sign negative ⟨'.', rfl, rfl⟩
  | nan =>
      exact ⟨'.', rfl, rfl⟩

/-- The text of a number begins with a digit, a minus sign or a point. -/
theorem leads_text (n : Number) : Leads isLead n.text := by
  cases n with
  | integer n =>
      cases n with
      | ofNat n =>
          exact leads_toString n
      | negSucc n =>
          exact Leads.append ⟨'-', rfl, rfl⟩ _
  | real x =>
      exact leads_realText x

end Number
end Yaml

end WorkflowLint
