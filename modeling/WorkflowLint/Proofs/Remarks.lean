import WorkflowLint.Proofs.Yaml.Reading
import WorkflowLint.Validation

/-!
# Remarks — texts that hold nothing

A text of white space is refused as empty before it is read. A text of comments is read: the scanner
passes by one line after the other, whatever the comments look like
(`Yaml.Scanner.exists_skipBlank_lines`), and comes to the end of the text without a token. What
holds no token holds no document, and its value is null (`Yaml.Value.parse_eq_null`), which is
refused as empty, too (`Workflow.parse_of_contentless`).
-/

namespace WorkflowLint

namespace Text

/-- A printed character of ASCII. -/
def isPrintableAscii (c : Char) : Bool :=
  0x20 ≤ c.toNat && c.toNat ≤ 0x7E

/-- A line of spaces, and then nothing or a comment of printed characters. -/
def IsRemark (line : List Char) : Prop :=
  ∃ n comment, line = List.replicate n ' ' ++ comment ∧
    (comment = [] ∨ ∃ text, comment = '#' :: text ∧ ∀ c ∈ text, isPrintableAscii c = true)

/-- A text of white space, or of lines that are remarks. -/
def IsContentless (source : String) : Prop :=
  (∀ c ∈ source.toList, isBlank c = true) ∨
    ∃ lines : List String, source = "\n".intercalate lines ∧ ∀ line ∈ lines, IsRemark line.toList

end Text

open Text (IsRemark isPrintableAscii)

namespace Yaml

/-! ## Characters -/

theorem isAdmissible_of_isPrintableAscii {c : Char} (h : isPrintableAscii c = true) :
    isAdmissible c = true := by
  simp only [isPrintableAscii, Bool.and_eq_true, decide_eq_true_eq] at h
  simp [isAdmissible, h.1, h.2]

theorem isBreak_of_isPrintableAscii {c : Char} (h : isPrintableAscii c = true) :
    isBreak c = false := by
  have hne : ∀ d : Char, isPrintableAscii d = false → (c == d) = false := by
    intro d hd
    rw [beq_eq_false_iff_ne]
    rintro rfl
    rw [h] at hd
    cases hd
  simp [isBreak, hne '\n' (by decide), hne '\r' (by decide), hne '\u0085' (by decide),
    hne '\u2028' (by decide), hne '\u2029' (by decide)]

theorem isPrintableAscii_of_mem_remark {line : List Char} (h : IsRemark line) :
    ∀ c ∈ line, isPrintableAscii c = true := by
  rcases h with ⟨n, comment, rfl, hcomment⟩
  intro c hc
  rcases List.mem_append.1 hc with hc | hc
  · rw [List.eq_of_mem_replicate hc]
    decide
  · rcases hcomment with rfl | ⟨text, rfl, htext⟩
    · cases hc
    · rcases List.mem_cons.1 hc with rfl | hc
      · decide
      · exact htext c hc

theorem isAdmissible_of_mem_remarks {lines : List (List Char)} (h : ∀ line ∈ lines, IsRemark line) :
    ∀ c ∈ ['\n'].intercalate lines, isAdmissible c = true := by
  have hline : ∀ line, IsRemark line → ∀ c ∈ line, isAdmissible c = true := fun line hremark c hc =>
    isAdmissible_of_isPrintableAscii (isPrintableAscii_of_mem_remark hremark c hc)
  induction lines with
  | nil =>
      simp
  | cons line lines ih =>
      rw [List.forall_mem_cons] at h
      cases lines with
      | nil =>
          rw [List.intercalate_singleton]
          exact hline line h.1
      | cons next lines =>
          rw [List.intercalate_cons_cons, List.append_assoc, List.singleton_append,
            List.forall_mem_append, List.forall_mem_cons]
          exact ⟨hline line h.1, by decide, ih h.2⟩

/-- A text of admissible characters has no defect. -/
theorem findDefect_eq_none {text : List Char} (h : ∀ c ∈ text, isAdmissible c = true)
    (offset index start room : Nat) : findDefect offset index start room text = none := by
  induction text generalizing offset index start room with
  | nil =>
      rfl
  | cons c text ih =>
      rw [List.forall_mem_cons] at h
      simp only [findDefect, h.1, if_true]
      exact ih h.2 _ _ _ _

/-! ## The scanner -/

namespace Scanner

variable {keyAllowed inComment : Bool} {m : Mark} {line rest : List Char}

theorem skipBlank_newline (keyAllowed inComment : Bool) (m : Mark) (rest : List Char) :
    skipBlank false keyAllowed inComment m ('\n' :: rest) =
      skipBlank false true false (m.nextLine 1) rest := by
  simp [skipBlank, isBreak]

theorem exists_skipBlank_spaces (n : Nat) (keyAllowed : Bool) (m : Mark) (rest : List Char) :
    ∃ m', skipBlank false keyAllowed false m (List.replicate n ' ' ++ rest) =
      skipBlank false keyAllowed false m' rest := by
  induction n generalizing m with
  | zero =>
      exact ⟨m, rfl⟩
  | succ n ih =>
      rcases ih m.next with ⟨m', hm'⟩
      refine ⟨m', ?_⟩
      rw [List.replicate_succ, List.cons_append, ← hm']
      simp [skipBlank, isBreak]

/-- Inside a comment, everything up to the end of the line is passed by. -/
theorem exists_skipBlank_comment {text : List Char} (h : ∀ c ∈ text, isBreak c = false)
    (keyAllowed : Bool) (m : Mark) (rest : List Char) :
    ∃ m', skipBlank false keyAllowed true m (text ++ rest) =
      skipBlank false keyAllowed true m' rest := by
  induction text generalizing m with
  | nil =>
      exact ⟨m, rfl⟩
  | cons c text ih =>
      rw [List.forall_mem_cons] at h
      rcases ih h.2 m.next with ⟨m', hm'⟩
      refine ⟨m', ?_⟩
      rw [List.cons_append, ← hm', skipBlank]
      · simp [h.1]
      · rintro more rfl
        exact absurd h.1 (by decide)

theorem exists_skipBlank_remark (h : IsRemark line) (keyAllowed : Bool) (m : Mark)
    (rest : List Char) :
    ∃ inComment m', skipBlank false keyAllowed false m (line ++ rest) =
      skipBlank false keyAllowed inComment m' rest := by
  rcases h with ⟨n, comment, rfl, hcomment⟩
  rw [List.append_assoc]
  rcases exists_skipBlank_spaces n keyAllowed m (comment ++ rest) with ⟨m', hm'⟩
  rw [hm']
  rcases hcomment with rfl | ⟨text, rfl, htext⟩
  · exact ⟨false, m', rfl⟩
  · have hbreak : ∀ c ∈ text, isBreak c = false := fun c hc =>
      isBreak_of_isPrintableAscii (htext c hc)
    rcases exists_skipBlank_comment hbreak keyAllowed m'.next rest with ⟨m'', hm''⟩
    refine ⟨true, m'', ?_⟩
    rw [← hm'']
    simp [skipBlank, isBreak]

/-- Nothing is left of lines that are remarks. -/
theorem exists_skipBlank_lines {lines : List (List Char)} (h : ∀ line ∈ lines, IsRemark line)
    (keyAllowed : Bool) (m : Mark) :
    ∃ keyAllowed' m', skipBlank false keyAllowed false m (['\n'].intercalate lines) =
      (keyAllowed', ⟨[], m'⟩) := by
  -- on the lines; a line feed ends the comment in front of it, so each line begins outside of one
  induction lines generalizing keyAllowed m with
  | nil =>
      exact ⟨keyAllowed, m, by simp [skipBlank]⟩
  | cons line lines ih =>
      rw [List.forall_mem_cons] at h
      cases lines with
      | nil =>
          rcases exists_skipBlank_remark h.1 keyAllowed m [] with ⟨inComment, m', hm'⟩
          refine ⟨keyAllowed, m', ?_⟩
          rw [List.intercalate_singleton, ← List.append_nil line, hm', skipBlank]
      | cons next lines =>
          rw [List.intercalate_cons_cons, List.append_assoc, List.singleton_append]
          rcases exists_skipBlank_remark h.1 keyAllowed m
            ('\n' :: ['\n'].intercalate (next :: lines)) with ⟨inComment, m', hm'⟩
          rw [hm', skipBlank_newline]
          exact ih h.2 true _

/-- Where nothing is left behind what is skipped, the only step makes the token of the end. -/
theorem exists_step_of_skipBlank {text : List Char} {m : Mark}
    (h : skipBlank false true false .origin text = (keyAllowed, ⟨[], m⟩)) :
    ∃ s m', (start text).step = .ok (s, false) ∧ s.made = [⟨.streamEnd, m', m'⟩] := by
  have hskip : (start text).skip =
      { start text with keyAllowed := keyAllowed, cursor := ⟨[], m⟩ } := by
    simp [skip, inFlow, mark, start, h]
  -- the end counts as the beginning of a line
  obtain ⟨m', hm'⟩ : ∃ m' : Mark, m' = if m.column == 0 then m else ⟨m.index, m.line + 1, 0⟩ :=
    ⟨_, rfl⟩
  refine ⟨{ start text with
    cursor := ⟨[], m'⟩, made := [⟨.streamEnd, m', m'⟩], count := 1, keyAllowed := false },
    m', ?_, rfl⟩
  rw [step, hskip, hm']
  rfl

end Scanner

/-- Where nothing is left behind what is skipped, there is no token but that of the end. -/
theorem exists_ofSource_eq {text : String} {keyAllowed : Bool} {m : Mark}
    (hdefect : ∀ c ∈ text.toList, isAdmissible c = true)
    (hskip : Scanner.skipBlank false true false .origin text.toList = (keyAllowed, ⟨[], m⟩)) :
    ∃ m', TokenStream.ofSource (.ofString text) = ⟨[⟨.streamEnd, m', m'⟩], none⟩ := by
  rcases Scanner.exists_step_of_skipBlank hskip with ⟨s, m', hstep, hmade⟩
  refine ⟨m', ?_⟩
  have hnone : (Source.ofString text).defect = none := findDefect_eq_none hdefect 0 0 0 _
  show Scanner.run _ (text.toList.length + 1) (Scanner.start text.toList) = _
  simp only [hnone, Scanner.run, hstep, Scanner.isBlocked, hmade]
  rfl

namespace Value

/-- A text without a token holds no document, which counts as null. -/
theorem parse_eq_null {text : String} {m : Mark}
    (h : TokenStream.ofSource (.ofString text) = ⟨[⟨.streamEnd, m, m⟩], none⟩) :
    parse text = .ok .null := by
  have hevents : EventStream.ofTokens ⟨[⟨.streamEnd, m, m⟩], none⟩ = ⟨[.streamEnd], none⟩ := by
    simp [EventStream.ofTokens, EventStream.read, Goal.expand, Goal.documentPart, Goal.take]
  rw [parse, Document.ofString, h, hevents]
  rfl

/-- Comments, on any number of lines, hold no document. -/
theorem parse_remarks {lines : List String} (h : ∀ line ∈ lines, IsRemark line.toList) :
    parse ("\n".intercalate lines) = .ok .null := by
  have htext : ("\n".intercalate lines).toList = ['\n'].intercalate (lines.map String.toList) :=
    String.toList_intercalate
  have hlines : ∀ line ∈ lines.map String.toList, IsRemark line := by
    simpa using h
  have hadmissible : ∀ c ∈ ("\n".intercalate lines).toList, isAdmissible c = true := by
    rw [htext]
    exact isAdmissible_of_mem_remarks hlines
  rcases Scanner.exists_skipBlank_lines hlines true .origin with ⟨keyAllowed, m, hskip⟩
  rw [← htext] at hskip
  rcases exists_ofSource_eq hadmissible hskip with ⟨m', htokens⟩
  exact parse_eq_null htokens

end Value

end Yaml

/-! ## Workflows -/

namespace Workflow

open Text (IsContentless)

variable {source : String}

theorem parse_of_contentless (h : IsContentless source) : parse source = .error .empty := by
  rcases h with hblank | ⟨lines, rfl, hlines⟩
  · have hall : Text.isBlankText source = true := List.all_eq_true.2 hblank
    rw [parse, hall, if_pos rfl]
  · rw [parse, Yaml.Value.parse_remarks hlines]
    exact ite_self _

end Workflow

/-- A text of white space, or of spaces and comments, is refused as empty, and that is the one
finding about it, whatever the rules and the policy are. -/
theorem validateWith_of_contentless {source : String} (h : Text.IsContentless source) :
    Workflow.parse source = .error .empty ∧
      ∀ (registry : Registry) (p : Policy),
        validateWith registry source p = [Diagnostic.error syntaxRule "YAML file is empty"] := by
  have hempty := Workflow.parse_of_contentless h
  exact ⟨hempty, fun registry p => validateWith_of_error hempty⟩

/-! ### A workflow in comments -/

/-- A text whose comments look like a workflow, a marker, a directive and an open bracket. -/
def commentedSource : String :=
  "# on: push\n\n  #--- %YAML 2\n    \n#jobs: [\"\n"

theorem isContentless_commentedSource : Text.IsContentless commentedSource := by
  have hcomment : ∀ (n : Nat) (text : String), text.toList.all isPrintableAscii = true →
      IsRemark (List.replicate n ' ' ++ '#' :: text.toList) := fun n text htext =>
    ⟨n, '#' :: text.toList, rfl, .inr ⟨text.toList, rfl, List.all_eq_true.1 htext⟩⟩
  have hblank : ∀ n, IsRemark (List.replicate n ' ') := fun n =>
    ⟨n, [], (List.append_nil _).symm, .inl rfl⟩
  refine .inr ⟨["# on: push", "", "  #--- %YAML 2", "    ", "#jobs: [\"", ""], by decide, ?_⟩
  simp only [List.forall_mem_cons]
  exact
    ⟨hcomment 0 " on: push" (by decide), hblank 0, hcomment 2 "--- %YAML 2" (by decide), hblank 4,
      hcomment 0 "jobs: [\"" (by decide), hblank 0, by simp⟩

theorem validateWith_of_contentless_commentedSource :
    Text.IsContentless commentedSource ∧
      Workflow.parse commentedSource = .error .empty ∧
      validate commentedSource .standard = [Diagnostic.error syntaxRule "YAML file is empty"] := by
  rcases validateWith_of_contentless isContentless_commentedSource with ⟨hempty, hall⟩
  exact ⟨isContentless_commentedSource, hempty, hall .builtins .standard⟩

end WorkflowLint
