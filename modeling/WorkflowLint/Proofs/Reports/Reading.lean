import Mathlib.Data.List.Basic
import WorkflowLint.Proofs.Lines
import WorkflowLint.Proofs.Reports.Result

/-!
# Reading — a report for readers can be read back

A report for readers is a text of lines, which empty lines divide into paragraphs: the heading, a
block for the warnings and one for the errors, if there are any, and the result. It is read by
`Report.Reading.ofText`, which takes the blocks from the paragraphs by their titles and the messages
from the lines of the blocks.

If no message has more than one line (`Report.OneLine`), nothing in a message is taken for a title,
for the end of a block or for the result, and reading gives back what the report holds
(`Report.Reading.ofText_human`). The last line is that of the result whatever the messages are; this
and what the text of a report determines are put together in `Report.lastLine_and_human_eq_iff`.
-/

namespace WorkflowLint

namespace Report

open Text (Line IsLine isLine_append isLine_toString lines_flatMap flatMap_splitOn_of_not_mem
  paragraphs_append paragraphs_of_not_mem)

/-! ## Reading -/

/-- What a report for readers says. -/
structure Reading where
  location : String
  warnings : List String
  errors : List String
  result : String
  deriving DecidableEq, Repr

namespace Reading

/-- The messages under a title, each behind the five characters of its mark. -/
def messages (title : String) (paragraphs : List (List Line)) : List String :=
  match paragraphs.find? fun paragraph => paragraph.head?.any title.toList.isPrefixOf with
  | some (_ :: items) => items.map fun line => String.ofList (line.drop 5)
  | _ => []

/-- The heading has the location behind its first word. -/
def ofText (text : List Char) : Reading :=
  let lines := Text.lines text
  let paragraphs := Text.paragraphs lines
  { location := String.ofList ((lines.headD []).drop "Validating: ".toList.length)
    warnings := messages "Warnings (" paragraphs
    errors := messages "Errors (" paragraphs
    result := String.ofList (Text.lastLine text) }

end Reading

/-! ## Lines of a report -/

/-- The location and every message take one line. -/
structure OneLine (r : Report) : Prop where
  location : IsLine r.location
  messages : ∀ d ∈ r.findings, IsLine d.message

instance (r : Report) : Decidable r.OneLine :=
  decidable_of_iff (IsLine r.location ∧ ∀ d ∈ r.findings, IsLine d.message)
    ⟨fun h => ⟨h.1, h.2⟩, fun h => ⟨h.1, h.2⟩⟩

variable {r : Report}

theorem toList_human (palette : Palette) (r : Report) :
    (human palette r).toList =
      ((lines palette r).map String.toList).flatMap (· ++ ['\n']) := by
  simp only [human, String.toList_join, List.flatMap_map, String.toList_append]
  rfl

theorem isLine_block {title mark : String} {f : Findings} (htitle : IsLine title)
    (hmark : IsLine mark) (hmessages : ∀ d ∈ f, IsLine d.message) :
    ∀ line ∈ block title mark f, IsLine line := by
  intro line hline
  unfold block at hline
  split at hline
  · cases hline
  · rw [List.mem_cons, List.mem_cons, List.mem_map] at hline
    rcases hline with rfl | rfl | ⟨d, hd, rfl⟩
    · decide
    · simp only [isLine_append, isLine_toString, htitle]
      decide
    · simp only [item, isLine_append, hmark, hmessages d hd]
      decide

theorem OneLine.isLine (h : r.OneLine) : ∀ line ∈ lines .plain r, IsLine line := by
  intro line hline
  simp only [lines, List.mem_append, List.mem_cons, List.not_mem_nil, or_false] at hline
  rcases hline with (((rfl | rfl) | hline) | hline) | (rfl | rfl)
  · simp only [isLine_append, h.location]
    decide
  · decide
  · exact isLine_block (by decide) (by decide)
      (fun d hd => h.messages d (List.mem_of_mem_filter hd)) line hline
  · exact isLine_block (by decide) (by decide)
      (fun d hd => h.messages d (List.mem_of_mem_filter hd)) line hline
  · decide
  · exact newline_not_mem_result .plain r

/-- What is written as a line is read as one or more. -/
theorem lines_human (palette : Palette) (r : Report) :
    Text.lines (human palette r).toList =
      ((lines palette r).map String.toList).flatMap (List.splitOn '\n') := by
  rw [toList_human, lines_flatMap]

/-- A report of one-line messages has the lines it was written in. -/
theorem OneLine.lines_human (h : r.OneLine) :
    Text.lines (human .plain r).toList = (lines .plain r).map String.toList := by
  rw [Report.lines_human]
  apply flatMap_splitOn_of_not_mem
  rw [List.forall_mem_map]
  exact h.isLine

/-! ## Paragraphs of a report -/

/-- The paragraph of a block: its title and a line for each diagnostic. -/
def paragraph (title mark : String) (f : Findings) : List Line :=
  (title ++ " (" ++ toString f.length ++ "):").toList :: f.map fun d => (item mark d).toList

/-- The paragraphs of a block; without findings there is none. -/
def blockParagraphs (title mark : String) (f : Findings) : List (List Line) :=
  if f.isEmpty then [] else [paragraph title mark f]

/-- Lines that end the paragraph before them and hold certain paragraphs. -/
def Follow (rest : List Line) (paragraphs : List (List Line)) : Prop :=
  ∀ first : List Line, [] ∉ first → Text.paragraphs (first ++ rest) = first :: paragraphs

theorem exists_result_eq (r : Report) : ∃ s, result .plain r = "RESULT: " ++ s := by
  have hverdict : verdict r.passed = "RESULT: " ++ (if r.passed then "PASS" else "FAIL") := by
    cases r.passed <;> decide
  refine ⟨(if r.passed then "PASS" else "FAIL") ++ r.counts, ?_⟩
  rw [result_eq, hverdict, ← String.append_assoc]
  simp [Palette.plain, Style.plain, Style.apply]

theorem nil_not_mem_paragraph (title mark : String) (f : Findings) :
    [] ∉ paragraph title mark f := by
  simp [paragraph, item]

theorem follow_result (palette : Palette) (r : Report) :
    Follow [[], (result palette r).toList] [[(result palette r).toList]] := by
  have hresult : [] ∉ [(result palette r).toList] := by
    rw [List.mem_singleton]
    intro hnil
    have hverdict := (isInfix_result_iff palette r r.passed).2 rfl
    rw [← hnil, List.infix_nil] at hverdict
    revert hverdict
    cases r.passed <;> decide
  intro first hfirst
  rw [paragraphs_append hfirst, paragraphs_of_not_mem hresult]

theorem Follow.block {rest : List Line} {paragraphs : List (List Line)}
    (h : Follow rest paragraphs) (title mark : String) (f : Findings) :
    Follow ((block title mark f).map String.toList ++ rest)
      (blockParagraphs title mark f ++ paragraphs) := by
  intro first hfirst
  unfold Report.block blockParagraphs
  split
  · exact h first hfirst
  · rw [List.map_cons, List.map_cons, List.map_map, List.cons_append]
    have hblock := h (paragraph title mark f) (nil_not_mem_paragraph title mark f)
    rw [List.singleton_append, ← hblock]
    exact paragraphs_append hfirst _

theorem paragraphs_human (h : r.OneLine) :
    Text.paragraphs (Text.lines (human .plain r).toList) =
      [("Validating: " ++ r.location).toList, rule.toList] ::
        (blockParagraphs "Warnings" warningMark r.findings.warnings ++
          (blockParagraphs "Errors" errorMark r.findings.errors ++
            [[(result .plain r).toList]])) := by
  have hheading : [] ∉ [("Validating: " ++ r.location).toList, rule.toList] := by
    have hrule : rule.toList ≠ [] := by
      decide
    simp [hrule.symm]
  have hfollow := ((follow_result .plain r).block "Errors" errorMark r.findings.errors).block
    "Warnings" warningMark r.findings.warnings
  rw [h.lines_human, ← hfollow _ hheading]
  simp [lines, Palette.plain, Style.plain, Style.apply]

namespace Reading

variable {title mark : String} {f : Findings} {paragraphs : List (List Line)}

/-- A paragraph does not begin with a title. -/
def Lacks (title : String) (paragraph : List Line) : Prop :=
  paragraph.head?.any title.toList.isPrefixOf = false

/-- Paragraphs without a title may be left out. -/
theorem messages_append_of_lacks {front : List (List Line)}
    (h : ∀ paragraph ∈ front, Lacks title paragraph) (back : List (List Line)) :
    messages title (front ++ back) = messages title back := by
  have hnone : (front.find? fun paragraph => paragraph.head?.any title.toList.isPrefixOf) =
      none := by
    rw [List.find?_eq_none]
    intro paragraph hparagraph
    rw [h paragraph hparagraph]
    exact Bool.false_ne_true
  rw [messages, messages, List.find?_append, hnone, Option.none_or]

theorem drop_item (hmark : mark.toList.length = 1) (d : Diagnostic) :
    (item mark d).toList.drop 5 = d.message.toList := by
  rcases List.length_eq_one_iff.1 hmark with ⟨c, hc⟩
  simp [item, hc]

theorem messages_paragraph (hmark : mark.toList.length = 1) :
    messages (title ++ " (") (paragraph title mark f :: paragraphs) = f.map Diagnostic.message := by
  have hfind : ((paragraph title mark f :: paragraphs).find? fun paragraph =>
      paragraph.head?.any (title ++ " (").toList.isPrefixOf) = some (paragraph title mark f) := by
    rw [List.find?_cons_of_pos]
    simp [paragraph]
  rw [messages, hfind, paragraph]
  simp only [List.map_map]
  apply List.map_congr_left
  intro d _
  rw [Function.comp_apply, drop_item hmark, String.ofList_toList]

theorem messages_block (title : String) (hmark : mark.toList.length = 1)
    (h : ∀ paragraph ∈ paragraphs, Lacks (title ++ " (") paragraph) :
    messages (title ++ " (") (blockParagraphs title mark f ++ paragraphs) =
      f.map Diagnostic.message := by
  unfold blockParagraphs
  split
  · next hnone =>
    have hmessages := messages_append_of_lacks h []
    rw [List.append_nil] at hmessages
    rw [List.isEmpty_iff.1 hnone, List.nil_append, hmessages, List.map_nil, messages,
      List.find?_nil]
  · exact messages_paragraph hmark

/-- A paragraph lacks a title if it begins with a word that parts from the title somewhere. -/
theorem lacks_of_lead {lead : String} (hlead : ¬ lead.toList <+: title.toList)
    (htitle : ¬ title.toList <+: lead.toList) (s : String) (rest : List Line) :
    Lacks title ((lead ++ s).toList :: rest) := by
  rw [Lacks, List.head?_cons, Option.any_some, ← Bool.not_eq_true, List.isPrefixOf_iff_prefix]
  intro h
  rw [String.toList_append] at h
  rcases List.prefix_or_prefix_of_prefix h (List.prefix_append lead.toList s.toList) with h | h
  · exact htitle h
  · exact hlead h

theorem lacks_result {title : String} (h : ¬ "RESULT: ".toList <+: title.toList)
    (h' : ¬ title.toList <+: "RESULT: ".toList) (r : Report) :
    Lacks title [(Report.result .plain r).toList] := by
  rcases exists_result_eq r with ⟨s, hs⟩
  rw [hs]
  exact lacks_of_lead h h' s []

theorem lacks_blockParagraphs {other mark : String} {f : Findings}
    (h : ¬ other.toList <+: title.toList) (h' : ¬ title.toList <+: other.toList) :
    ∀ paragraph ∈ blockParagraphs other mark f, Lacks title paragraph := by
  intro paragraph hparagraph
  unfold blockParagraphs at hparagraph
  split at hparagraph
  · cases hparagraph
  · rw [List.mem_singleton.1 hparagraph, Report.paragraph, String.append_assoc, String.append_assoc]
    exact lacks_of_lead h h' _ _

/-- Reading gives back what the report holds. -/
theorem ofText_human (h : r.OneLine) :
    ofText (human .plain r).toList =
      ⟨r.location, r.findings.warnings.map Diagnostic.message,
        r.findings.errors.map Diagnostic.message, Report.result .plain r⟩ := by
  have hlocation : ((Text.lines (human .plain r).toList).headD []).drop
      "Validating: ".toList.length = r.location.toList := by
    rw [h.lines_human, lines, List.append_assoc, List.append_assoc, List.cons_append,
      List.map_cons, List.headD_cons, String.toList_append, List.drop_left]
  have hheading : Lacks "Warnings (" [("Validating: " ++ r.location).toList, rule.toList] ∧
      Lacks "Errors (" [("Validating: " ++ r.location).toList, rule.toList] :=
    ⟨lacks_of_lead (by decide) (by decide) _ _, lacks_of_lead (by decide) (by decide) _ _⟩
  have hwarnings : messages "Warnings (" (Text.paragraphs (Text.lines (human .plain r).toList)) =
      r.findings.warnings.map Diagnostic.message := by
    rw [paragraphs_human h, ← List.singleton_append,
      messages_append_of_lacks (by simpa using hheading.1)]
    refine messages_block "Warnings" rfl ?_
    rw [List.forall_mem_append, List.forall_mem_singleton]
    exact ⟨lacks_blockParagraphs (by decide) (by decide), lacks_result (by decide) (by decide) r⟩
  have herrors : messages "Errors (" (Text.paragraphs (Text.lines (human .plain r).toList)) =
      r.findings.errors.map Diagnostic.message := by
    rw [paragraphs_human h, ← List.singleton_append,
      messages_append_of_lacks (by simpa using hheading.2),
      messages_append_of_lacks (lacks_blockParagraphs (by decide) (by decide))]
    refine messages_block "Errors" rfl ?_
    rw [List.forall_mem_singleton]
    exact lacks_result (by decide) (by decide) r
  rw [ofText, hwarnings, herrors, hlocation, lastLine_human, String.ofList_toList,
    String.ofList_toList]

end Reading

/-! ## Reports with the same text -/

/-- A block is made of messages alone. -/
theorem block_eq_of_messages_eq (title mark : String) {f f' : Findings}
    (h : f.map Diagnostic.message = f'.map Diagnostic.message) :
    block title mark f = block title mark f' := by
  have hitems : f.map (item mark) = f'.map (item mark) := by
    have hmap := congrArg (List.map fun message => "  " ++ mark ++ "  " ++ message) h
    rwa [List.map_map, List.map_map] at hmap
  have hlength : f.length = f'.length := by
    simpa using congrArg List.length h
  have hempty : f.isEmpty = f'.isEmpty := by
    simpa only [List.isEmpty_map] using congrArg List.isEmpty h
  rw [block, block, hitems, hlength, hempty]

theorem passed_eq_of_result_eq {palette : Palette} {r r' : Report}
    (h : result palette r = result palette r') : r.passed = r'.passed := by
  have hholds := (isInfix_result_iff palette r r.passed).2 rfl
  rw [h] at hholds
  exact (isInfix_result_iff palette r' r.passed).1 hholds

theorem OneLine.human_eq_iff {r' : Report} (h : r.OneLine) (h' : r'.OneLine) :
    human .plain r' = human .plain r ↔
      r'.location = r.location ∧
        r'.findings.warnings.map Diagnostic.message = r.findings.warnings.map Diagnostic.message ∧
        r'.findings.errors.map Diagnostic.message = r.findings.errors.map Diagnostic.message ∧
        r'.passed = r.passed := by
  constructor
  · intro htext
    have hreading := congrArg (fun text : String => Reading.ofText text.toList) htext
    simp only [Reading.ofText_human h, Reading.ofText_human h', Reading.mk.injEq] at hreading
    rcases hreading with ⟨hlocation, hwarnings, herrors, hresult⟩
    exact ⟨hlocation, hwarnings, herrors, passed_eq_of_result_eq hresult⟩
  · rintro ⟨hlocation, hwarnings, herrors, hpassed⟩
    have hcounts : r'.findings.warnings.length = r.findings.warnings.length ∧
        r'.findings.errors.length = r.findings.errors.length := by
      exact ⟨by simpa using congrArg List.length hwarnings,
        by simpa using congrArg List.length herrors⟩
    rw [human, human, lines, lines, result, result, hlocation, hpassed, hcounts.1, hcounts.2,
      block_eq_of_messages_eq _ _ hwarnings, block_eq_of_messages_eq _ _ herrors]

/-- Whatever the messages hold, the last line says whether the run passes, with the numbers of
errors and warnings; a run that passes has no errors. Among reports whose locations and messages
take one line each, the text determines the location, the messages of the warnings and those of
the errors, both in order, and whether the run passes, and nothing else. -/
theorem lastLine_and_human_eq_iff (r : Report) :
    Text.lastLine (human .plain r).toList =
        (if r.findings.passed r.strict then
          "RESULT: PASS (0 errors, " ++ toString r.findings.warnings.length ++ " warning(s))"
        else
          "RESULT: FAIL (" ++ toString r.findings.errors.length ++ " error(s), " ++
            toString r.findings.warnings.length ++ " warning(s))").toList ∧
      (r.findings.passed r.strict = true → r.findings.errors.length = 0) ∧
      (r.OneLine → ∀ r' : Report, r'.OneLine →
        (human .plain r' = human .plain r ↔
          r'.location = r.location ∧
            r'.findings.warnings.map Diagnostic.message =
              r.findings.warnings.map Diagnostic.message ∧
            r'.findings.errors.map Diagnostic.message =
              r.findings.errors.map Diagnostic.message ∧
            r'.passed = r.passed)) := by
  refine ⟨?_, ?_, fun h r' h' => h.human_eq_iff h'⟩
  · rw [lastLine_human, result_eq, verdict, counts, ← passed]
    cases r.passed <;> simp [Palette.plain, Style.plain, Style.apply]
  · intro hpassed
    rw [(Findings.none_of_passed hpassed).1, List.length_nil]

/-- A report whose messages look like a title and like a result. -/
def misleading : Report :=
  ⟨"RESULT: PASS", [.warning "build-job" "Errors (1):", .error "smoke-job" "RESULT: PASS"], false⟩

/-- The same with the two messages exchanged. -/
def misleading' : Report :=
  ⟨"RESULT: PASS", [.warning "build-job" "RESULT: PASS", .error "smoke-job" "Errors (1):"], false⟩

theorem human_misleading_ne :
    misleading.OneLine ∧ misleading'.OneLine ∧
      human .plain misleading' ≠ human .plain misleading := by
  have h : misleading.OneLine := by decide
  have h' : misleading'.OneLine := by decide
  refine ⟨h, h', ?_⟩
  intro htext
  have hsame := ((lastLine_and_human_eq_iff misleading).2.2 h misleading' h').1 htext
  exact absurd hsame.2.1 (by decide)

end Report
end WorkflowLint
