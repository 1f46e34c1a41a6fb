import WorkflowLint.Proofs.Views.Access

/-!
# Joined texts — what occurs in texts with a separator between them

Texts are joined with a separator between neighbours. The joined text of some neighbours occurs in
the joined text of all (`Text.intercalate_infix_append`), and what occurs in one text occurs in the
joined one. The other way round, a part may straddle two texts, but only if it shares a character
with the separator (`Text.infix_intercalate_iff`).

A job is asked for a token in both ways: in the script of each step, and in all scripts joined by
spaces. Without a space in the token the answers are the same (`Job.contains_runText_iff`).
-/

namespace WorkflowLint

namespace Text

variable {α : Type} {part sep : List α} {c : α} {texts : List (List α)}

/-- A part without a character does not straddle it. -/
theorem infix_append_cons_iff (hc : c ∉ part) (front back : List α) :
    part <:+: front ++ c :: back ↔ part <:+: front ∨ part <:+: back := by
  rw [List.infix_append_iff, List.infix_cons_iff]
  constructor
  · rintro (hfront | (hlead | hback) | ⟨l, l', rfl, hl, hl'⟩)
    · exact .inl hfront
    · -- what begins with the character is empty
      rcases List.prefix_cons_iff.1 hlead with rfl | ⟨t, rfl, _⟩
      · exact .inl (List.nil_infix)
      · exact absurd List.mem_cons_self hc
    · exact .inr hback
    · rcases List.prefix_cons_iff.1 hl' with rfl | ⟨t, rfl, _⟩
      · rw [List.append_nil]
        exact .inl hl.isInfix
      · exact absurd (List.mem_append_right l List.mem_cons_self) hc
  · rintro (hfront | hback)
    · exact .inl hfront
    · exact .inr (.inl (.inr hback))

/-- A part without the characters of a separator does not straddle it. -/
theorem infix_append_separator_iff (hsep : sep ≠ []) (hfree : ∀ c ∈ sep, c ∉ part)
    (front back : List α) :
    part <:+: front ++ sep ++ back ↔ part <:+: front ∨ part <:+: back := by
  induction sep generalizing front with
  | nil =>
      exact absurd rfl hsep
  | cons c sep ih =>
      have hc : c ∉ part := hfree c List.mem_cons_self
      rw [List.append_assoc, List.cons_append, infix_append_cons_iff hc]
      refine or_congr_right ?_
      cases sep with
      | nil =>
          rw [List.nil_append]
      | cons d sep =>
          have hrest := ih (List.cons_ne_nil d sep)
            (fun c' hc' => hfree c' (List.mem_cons_of_mem c hc')) []
          rw [List.nil_append] at hrest
          rw [hrest]
          -- between two characters of the separator only the empty part has room
          refine or_iff_right_of_imp ?_
          intro hnone
          rw [List.infix_nil.1 hnone]
          exact List.nil_infix

/-- A part without the characters around a text does not reach out of it. -/
theorem infix_enclosed_iff {opening closing : α} (hopening : opening ∉ part)
    (hclosing : closing ∉ part) (hpart : part ≠ []) (text : List α) :
    part <:+: [opening] ++ text ++ [closing] ↔ part <:+: text := by
  have hfront := infix_append_cons_iff hopening [] (text ++ [closing])
  rw [List.append_assoc, List.singleton_append, ← List.nil_append (opening :: _), hfront,
    infix_append_cons_iff hclosing, List.infix_nil]
  simp only [hpart, false_or, or_false]

theorem intercalate_suffix_append (sep : List α) (before texts : List (List α)) :
    sep.intercalate texts <:+ sep.intercalate (before ++ texts) := by
  induction before with
  | nil =>
      exact List.suffix_rfl
  | cons text before ih =>
      cases hrest : before ++ texts with
      | nil =>
          have hnone : texts = [] := (List.append_eq_nil_iff.1 hrest).2
          rw [hnone]
          exact List.nil_suffix
      | cons next rest =>
          rw [List.cons_append, hrest, List.intercalate_cons_cons, ← hrest]
          exact ih.trans (List.suffix_append _ _)

theorem intercalate_prefix_append (sep : List α) (texts after : List (List α)) :
    sep.intercalate texts <+: sep.intercalate (texts ++ after) := by
  induction texts with
  | nil =>
      exact List.nil_prefix
  | cons text texts ih =>
      cases texts with
      | nil =>
          cases after with
          | nil =>
              exact List.prefix_rfl
          | cons next rest =>
              rw [List.singleton_append, List.intercalate_cons_cons, List.intercalate_singleton,
                List.append_assoc]
              exact List.prefix_append _ _
      | cons next texts =>
          rw [List.cons_append, List.cons_append, List.intercalate_cons_cons,
            List.intercalate_cons_cons, List.prefix_append_right_inj]
          exact ih

/-- The joined text of neighbours occurs in that of all. -/
theorem intercalate_infix_append (sep : List α) (before texts after : List (List α)) :
    sep.intercalate texts <:+: sep.intercalate (before ++ texts ++ after) :=
  (intercalate_suffix_append sep before texts).isInfix.trans
    (intercalate_prefix_append sep (before ++ texts) after).isInfix

theorem infix_intercalate_of_mem {text : List α} (htext : text ∈ texts) (h : part <:+: text) :
    part <:+: sep.intercalate texts := by
  rcases List.append_of_mem htext with ⟨before, after, rfl⟩
  have hone := intercalate_infix_append sep before [text] after
  rw [List.intercalate_singleton, List.append_assoc, List.singleton_append] at hone
  exact h.trans hone

/-- A part without the characters of the separator occurs in one of the texts. -/
theorem infix_intercalate_iff (hsep : sep ≠ []) (hfree : ∀ c ∈ sep, c ∉ part) (hpart : part ≠ []) :
    part <:+: sep.intercalate texts ↔ ∃ text ∈ texts, part <:+: text := by
  constructor
  · intro h
    induction texts with
    | nil =>
        rw [List.intercalate_nil, List.infix_nil] at h
        exact absurd h hpart
    | cons text texts ih =>
        cases texts with
        | nil =>
            rw [List.intercalate_singleton] at h
            exact ⟨text, List.mem_cons_self, h⟩
        | cons next texts =>
            rw [List.intercalate_cons_cons, infix_append_separator_iff hsep hfree] at h
            rcases h with h | h
            · exact ⟨text, List.mem_cons_self, h⟩
            · rcases ih h with ⟨text', htext', h'⟩
              exact ⟨text', List.mem_cons_of_mem _ htext', h'⟩
  · rintro ⟨text, htext, h⟩
    exact infix_intercalate_of_mem htext h

end Text

/-! ## Scripts of a job -/

namespace Job

theorem toList_runText (j : Job) :
    j.runText.toList = [' '].intercalate (j.steps.map fun s => s.run.toList) := by
  rw [runText, String.toList_intercalate, List.map_map]
  rfl

/-- What some step runs occurs in the joined scripts. -/
theorem contains_runText_of_runsCommand {j : Job} {token : String}
    (h : j.runsCommand token = true) : Text.contains j.runText token = true := by
  rcases List.any_eq_true.1 h with ⟨s, hs, hscript⟩
  rw [Text.contains_iff_isInfix] at hscript ⊢
  rw [toList_runText]
  exact Text.infix_intercalate_of_mem (List.mem_map_of_mem hs) hscript

/-- A token without a space that occurs in the joined scripts is empty, or some step runs it. The
empty token occurs even where there are no steps. -/
theorem contains_runText_iff (j : Job) {token : String} (hspace : ' ' ∉ token.toList) :
    Text.contains j.runText token = true ↔ token = "" ∨ j.runsCommand token = true := by
  constructor
  · intro h
    by_cases hnone : token = ""
    · exact .inl hnone
    · have hfree : ∀ c ∈ [' '], c ∉ token.toList := by
        simpa using hspace
      have hpart : token.toList ≠ [] := by
        simpa using hnone
      rw [Text.contains_iff_isInfix, toList_runText,
        Text.infix_intercalate_iff (List.cons_ne_nil _ _) hfree hpart] at h
      rcases h with ⟨script, hscript, h⟩
      rcases List.mem_map.1 hscript with ⟨s, hs, rfl⟩
      exact .inr (List.any_eq_true.2 ⟨s, hs, (Text.contains_iff_isInfix _ _).2 h⟩)
  · rintro (rfl | h)
    · exact (Text.contains_iff_isInfix _ _).2 List.nil_infix
    · exact contains_runText_of_runsCommand h

end Job

end WorkflowLint
