import WorkflowLint.Proofs.Numerals
import WorkflowLint.Report.Delivery
import WorkflowLint.Report.Format

/-!
# Results — where a report says whether the run passes

A report for readers says so in its last line, whatever the lines before it hold and whatever the
styles are; a report for programs says so in a member of its summary. This module reads the two
places back (`Report.shows_text`).
-/

namespace WorkflowLint

/-! ## Findings that pass -/

/-- Findings that pass hold no errors, and in a strict run nothing at all. -/
theorem Findings.none_of_passed {f : Findings} {strict : Bool} (h : f.passed strict = true) :
    f.errors = [] ∧ (strict = true → f = []) := by
  cases strict with
  | false =>
      have herrors : ¬ f.hasErrors = true := by
        simpa [passed] using h
      rw [hasErrors_iff, Classical.not_not] at herrors
      exact ⟨herrors, nofun⟩
  | true =>
      have hempty : f = [] := by
        simpa [passed] using h
      rw [hempty]
      exact ⟨rfl, fun _ => rfl⟩

/-! ## Last lines -/

/-- The last line of a text that ends with a line feed, without it. -/
def Text.lastLine (text : List Char) : List Char :=
  (text.dropLast.reverse.takeWhile (· != '\n')).reverse

theorem Text.lastLine_append {front line : List Char} (h : '\n' ∉ line) :
    Text.lastLine (front ++ '\n' :: (line ++ ['\n'])) = line := by
  have hline : ∀ c ∈ line.reverse, (c != '\n') = true := by
    intro c hc
    have hne : c ≠ '\n' := by
      rintro rfl
      exact h (List.mem_reverse.1 hc)
    simpa using hne
  -- from the back, the line comes right after the line feed at the end
  have hback : (front ++ '\n' :: (line ++ ['\n'])).dropLast.reverse =
      line.reverse ++ '\n' :: front.reverse := by
    rw [show front ++ '\n' :: (line ++ ['\n']) = (front ++ '\n' :: line) ++ ['\n'] by simp,
      List.dropLast_concat]
    simp
  rw [Text.lastLine, hback, List.takeWhile_append_of_pos hline]
  simp

/-! ## Styled texts -/

/-- A class of characters that holds those of escape sequences. -/
structure HoldsEscapes (p : Char → Bool) : Prop where
  digit : ∀ c : Char, c.isDigit = true → p c = true
  escape : p '\x1b' = true
  bracket : p '[' = true
  letter : p 'm' = true

/-- All characters but one that has no part in escape sequences. -/
theorem holdsEscapes_ne {d : Char} (hdigit : d.isDigit = false)
    (hd : d ∉ ['\x1b', '[', 'm']) : HoldsEscapes (· != d) where
  digit := by
    intro c hc
    rw [bne_iff_ne]
    rintro rfl
    rw [hc] at hdigit
    cases hdigit
  escape := by
    rw [bne_iff_ne]
    rintro rfl
    simp at hd
  bracket := by
    rw [bne_iff_ne]
    rintro rfl
    simp at hd
  letter := by
    rw [bne_iff_ne]
    rintro rfl
    simp at hd

namespace Style

variable {p : Char → Bool} {text : String}

theorem all_sequence (hp : HoldsEscapes p) (code : Nat) :
    (sequence code).toList.all p = true := by
  rw [sequence, String.toList_append, String.toList_append, List.all_append, List.all_append,
    all_toString hp.digit]
  simp [hp.escape, hp.bracket, hp.letter]

/-- A styled text has the characters of the text and those of escape sequences. -/
theorem all_apply (style : Style) (hp : HoldsEscapes p) (htext : text.toList.all p = true) :
    (style.apply text).toList.all p = true := by
  unfold apply
  split
  · exact htext
  · rw [String.toList_append, String.toList_append, List.all_append, List.all_append, htext,
      all_sequence hp, String.toList_join]
    simp [all_sequence hp]

theorem isInfix_apply (style : Style) (text : String) :
    text.toList <:+: (style.apply text).toList := by
  unfold apply
  split
  · exact List.infix_refl _
  · refine ⟨(String.join (style.codes.map sequence)).toList, (sequence 0).toList, ?_⟩
    rw [String.toList_append, String.toList_append]

end Style

namespace Report

variable {p : Char → Bool} {palette : Palette} {r : Report}

/-! ## The line of the result -/

/-- The word of the result. -/
def verdict (passed : Bool) : String :=
  if passed then "RESULT: PASS" else "RESULT: FAIL"

/-- What follows the word in the line of the result. -/
def counts (r : Report) : String :=
  (if r.passed then " (0 errors, "
    else " (" ++ toString r.findings.errors.length ++ " error(s), ") ++
  (toString r.findings.warnings.length ++ " warning(s))")

theorem result_eq (palette : Palette) (r : Report) :
    result palette r =
      (if r.passed then palette.passed else palette.failed).apply (verdict r.passed) ++
        r.counts := by
  unfold result counts verdict
  split
  · simp only [String.append_assoc]
  · simp only [String.append_assoc]

theorem all_counts (hp : HoldsEscapes p)
    (hwords : [" (0 errors, ", " (", " error(s), ", " warning(s))"].all (·.toList.all p) = true) :
    r.counts.toList.all p = true := by
  simp only [List.all_cons, List.all_nil, Bool.and_true, Bool.and_eq_true] at hwords
  rcases hwords with ⟨hnone, hopen, herrors, hwarnings⟩
  have hnumber := all_toString hp.digit
  unfold counts
  split
  · simp only [String.toList_append, List.all_append, hnumber, hnone, hwarnings, Bool.and_true]
  · simp only [String.toList_append, List.all_append, hnumber, hopen, herrors, hwarnings,
      Bool.and_true]

/-- The line of the result has the characters of its word, those of its words for counts, digits
and those of escape sequences. -/
theorem all_result (palette : Palette) (hp : HoldsEscapes p)
    (hverdict : (verdict r.passed).toList.all p = true)
    (hwords : [" (0 errors, ", " (", " error(s), ", " warning(s))"].all (·.toList.all p) = true) :
    (result palette r).toList.all p = true := by
  rw [result_eq, String.toList_append, List.all_append, all_counts hp hwords, Bool.and_true]
  exact Style.all_apply _ hp hverdict

/-- A line without a character does not hold a text with it. -/
theorem not_isInfix_of_all_ne {part line : List Char} {c : Char} (hc : c ∈ part)
    (hline : line.all (· != c) = true) : ¬ part <:+: line := by
  intro h
  have hne := List.all_eq_true.1 hline c (h.subset hc)
  simp at hne

theorem newline_not_mem_result (palette : Palette) (r : Report) :
    '\n' ∉ (result palette r).toList := by
  have hverdict : (verdict r.passed).toList.all (· != '\n') = true := by
    cases r.passed <;> decide
  have hall : (result palette r).toList.all (· != '\n') = true :=
    all_result palette (holdsEscapes_ne (by decide) (by decide)) hverdict (by decide)
  intro h
  have hne := List.all_eq_true.1 hall _ h
  simp at hne

/-- Of the two words, the line of the result holds the right one only, for the other one has a
letter that stands nowhere in the line. -/
theorem isInfix_result_iff (palette : Palette) (r : Report) (passed : Bool) :
    (verdict passed).toList <:+: (result palette r).toList ↔ passed = r.passed := by
  have hholds : (verdict r.passed).toList <:+: (result palette r).toList := by
    rw [result_eq, String.toList_append]
    exact (Style.isInfix_apply _ _).trans (List.prefix_append _ _).isInfix
  constructor
  · intro h
    cases hr : r.passed with
    | true =>
        cases passed with
        | true =>
            rfl
        | false =>
            refine absurd h (not_isInfix_of_all_ne (c := 'F') (by decide) ?_)
            refine all_result palette (holdsEscapes_ne (by decide) (by decide)) ?_ (by decide)
            rw [hr]
            decide
    | false =>
        cases passed with
        | false =>
            rfl
        | true =>
            refine absurd h (not_isInfix_of_all_ne (c := 'P') (by decide) ?_)
            refine all_result palette (holdsEscapes_ne (by decide) (by decide)) ?_ (by decide)
            rw [hr]
            decide
  · rintro rfl
    exact hholds

/-- The line of the result is the last one, whatever the lines before it hold. -/
theorem lastLine_human (palette : Palette) (r : Report) :
    Text.lastLine (human palette r).toList = (result palette r).toList := by
  have htext : ∃ front, (human palette r).toList =
      front ++ '\n' :: ((result palette r).toList ++ ['\n']) := by
    rw [human, lines, List.map_append, String.toList_join, List.flatMap_append]
    refine ⟨_, congrArg _ ?_⟩
    simp
  rcases htext with ⟨front, htext⟩
  rw [htext, Text.lastLine_append (newline_not_mem_result palette r)]

end Report

/-! ## The member of the summary -/

/-- The value of the first member with a key. -/
def Json.Value.member? (key : String) : Json.Value → Option Json.Value
  | .object members => (members.find? fun m => m.1 == key).map Prod.snd
  | _ => none

namespace Report

/-- The end of a report for programs: the last member of its last member. -/
def machineEnd (passed : Bool) : String :=
  "\"passed\": " ++ toString passed ++ "\n  \x7d\n\x7d\n"

theorem machineEnd_suffix_machine (r : Report) :
    (machineEnd r.passed).toList <:+ r.machine.toList := by
  -- `passed` is the last member of the summary, and the summary that of the report
  have hsummary : Json.quote "passed" ++ [':', ' '] ++ (toString r.passed).toList ++
      Json.newline 1 ++ ['}'] <:+ r.summary.write 1 := by
    simp only [summary, Json.Value.write, Json.writeMembers, ← List.append_assoc]
    exact ⟨_, by simp only [← List.append_assoc]; rfl⟩
  have htext : r.summary.write 1 ++ Json.newline 0 ++ ['}'] <:+ r.toJson.write 0 := by
    simp only [toJson, Json.Value.write, Json.writeMembers, ← List.append_assoc]
    exact ⟨_, by simp only [← List.append_assoc]; rfl⟩
  rcases hsummary with ⟨front, hsummary⟩
  rcases htext with ⟨front', htext⟩
  refine ⟨front' ++ front, ?_⟩
  rw [machine, Json.Value.text, String.toList_append, String.toList_ofList, ← htext, ← hsummary]
  cases r.passed <;> simp [machineEnd, Json.quote, Json.newline, Json.escape]

/-- No text has both ends. -/
theorem machineEnd_suffix_iff {text : List Char} {passed : Bool}
    (h : (machineEnd passed).toList <:+ text) (other : Bool) :
    (machineEnd other).toList <:+ text ↔ other = passed := by
  constructor
  · intro h'
    -- one of the ends would be an end of the other
    rcases List.suffix_or_suffix_of_suffix h h' with hs | hs <;>
      · revert hs
        cases passed <;> cases other <;> decide
  · rintro rfl
    exact h

/-! ## Reports in a form -/

/-- The text of a report in a form. -/
def text (palette : Palette) (r : Report) : Format → String
  | .human => human palette r
  | .json => r.machine

/-- A text of a form says whether a run passed. A text for readers does so in its last line, by
one of two results and not by the other. A text for programs is a value whose `summary` has a
member `passed`, and the text ends with this member. -/
def Shows (text : String) (passed : Prop) : Format → Prop
  | .human =>
      ("RESULT: PASS".toList <:+: Text.lastLine text.toList ↔ passed) ∧
        ("RESULT: FAIL".toList <:+: Text.lastLine text.toList ↔ ¬ passed)
  | .json =>
      (∃ v b, text = Json.Value.text v ++ "\n" ∧
        (v.member? "summary").bind (Json.Value.member? "passed") = some (.bool b) ∧
        (b = true ↔ passed)) ∧
        ((machineEnd true).toList <:+ text.toList ↔ passed) ∧
        ((machineEnd false).toList <:+ text.toList ↔ ¬ passed)

/-- The text of a report says what the report comes to. -/
theorem shows_text (palette : Palette) (r : Report) (f : Format) :
    Shows (r.text palette f) (r.passed = true) f := by
  cases f with
  | human =>
      have hword := isInfix_result_iff palette r
      refine ⟨?_, ?_⟩
      · rw [text, lastLine_human]
        exact (hword true).trans eq_comm
      · rw [text, lastLine_human, Bool.not_eq_true]
        exact (hword false).trans eq_comm
  | json =>
      have hend := machineEnd_suffix_iff r.machineEnd_suffix_machine
      refine ⟨⟨r.toJson, r.passed, rfl, rfl, Iff.rfl⟩, ?_, ?_⟩
      · rw [text, hend true]
        exact eq_comm
      · rw [text, hend false, Bool.not_eq_true]
        exact eq_comm

/-- The pieces in which a report is written make up its text. -/
theorem flatMap_octets_pieces (palette : Palette) (r : Report) (f : Format) :
    (r.pieces palette f).flatMap Delivery.octets = Delivery.octets (r.text palette f) := by
  cases f with
  | human =>
      simp only [pieces, text, human, Delivery.octets, String.toList_join, List.flatMap_assoc]
      rfl
  | json =>
      simp [pieces, text]

end Report

end WorkflowLint
