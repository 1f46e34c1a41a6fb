import Mathlib.Data.List.Forall2
import WorkflowLint.Proofs.Reports.Reading

/-!
# Colors — styles change how a report looks, not what it says

A styled report holds escape sequences, and nothing else that a plain one does not hold: without
these sequences (`Text.withoutRenditions`) it is the plain report, character by character. The
sequences of a style end where the styled text begins or where the style ends, so none of them takes
a character of what stands around it (`Text.withoutRenditions_sequence`). This is so for every
palette; the palette that is chosen has styles only if they are wanted and shown, and then the
report holds the escape character, which it does not hold otherwise
(`Report.withoutRenditions_human_choose`).
-/

namespace WorkflowLint

namespace Text

/-! ## Escape sequences -/

/-- What follows the parameters of an escape sequence and the letter that makes it set a
rendition. Parameters are digits and semicolons. -/
def afterParameters? : List Char → Option (List Char)
  | [] => none
  | c :: rest =>
    if c == 'm' then some rest
    else if c.isDigit || c == ';' then afterParameters? rest
    else none

/-- What follows an escape sequence that sets a rendition, if a text begins with one. -/
def afterRendition? : List Char → Option (List Char)
  | '\x1b' :: '[' :: rest => afterParameters? rest
  | _ => none

theorem afterParameters?_suffix {text rest : List Char} (h : afterParameters? text = some rest) :
    rest <:+ text := by
  induction text with
  | nil =>
      cases h
  | cons c text ih =>
      rw [afterParameters?] at h
      split at h
      · cases h
        exact List.suffix_cons _ _
      · split at h
        · exact (ih h).trans (List.suffix_cons _ _)
        · cases h

theorem length_afterRendition?_lt {text rest : List Char} (h : afterRendition? text = some rest) :
    rest.length < text.length := by
  unfold afterRendition? at h
  split at h
  · have hle := (afterParameters?_suffix h).length_le
    simp only [List.length_cons]
    omega
  · cases h

/-- The text without the escape sequences that set a rendition. -/
def withoutRenditions : List Char → List Char
  | [] => []
  | c :: rest =>
    match _h : afterRendition? (c :: rest) with
    | some after => withoutRenditions after
    | none => c :: withoutRenditions rest
termination_by text => text.length
decreasing_by
  · exact length_afterRendition?_lt _h
  · exact Nat.lt_succ_self _

/-- A text without the escape character. -/
def IsPlain (s : String) : Prop :=
  '\x1b' ∉ s.toList

instance (s : String) : Decidable (IsPlain s) :=
  inferInstanceAs (Decidable ('\x1b' ∉ s.toList))

@[simp] theorem isPlain_append (s t : String) : IsPlain (s ++ t) ↔ IsPlain s ∧ IsPlain t := by
  simp [IsPlain]

@[simp] theorem isPlain_toString (n : Nat) : IsPlain (toString n) := by
  intro h
  have hdigit := isDigit_of_mem_toString h
  revert hdigit
  decide

theorem isPlain_join {parts : List String} :
    IsPlain (String.join parts) ↔ ∀ part ∈ parts, IsPlain part := by
  simp [IsPlain, String.toList_join]

/-- Only the escape character begins a sequence. -/
theorem withoutRenditions_cons {c : Char} (h : c ≠ '\x1b') (rest : List Char) :
    withoutRenditions (c :: rest) = c :: withoutRenditions rest := by
  have hnone : afterRendition? (c :: rest) = none := by
    unfold afterRendition?
    split
    · next heq => exact absurd (List.cons.inj heq).1 h
    · rfl
  rw [withoutRenditions]
  split
  · next hsome =>
    rw [hnone] at hsome
    cases hsome
  · rfl

theorem withoutRenditions_append {text : List Char} (h : '\x1b' ∉ text) (rest : List Char) :
    withoutRenditions (text ++ rest) = text ++ withoutRenditions rest := by
  induction text with
  | nil =>
      rfl
  | cons c text ih =>
      rw [List.mem_cons, not_or] at h
      rw [List.cons_append, withoutRenditions_cons (Ne.symm h.1), ih h.2, List.cons_append]

theorem afterParameters?_digits {digits : List Char} (h : ∀ c ∈ digits, c.isDigit = true)
    (rest : List Char) : afterParameters? (digits ++ 'm' :: rest) = some rest := by
  induction digits with
  | nil =>
      simp [afterParameters?]
  | cons c digits ih =>
      rw [List.forall_mem_cons] at h
      have hc : c ≠ 'm' := by
        rintro rfl
        exact absurd h.1 (by decide)
      simp [afterParameters?, h.1, hc, ih h.2]

/-- A sequence goes, and nothing that follows it. -/
theorem withoutRenditions_sequence (code : Nat) (rest : List Char) :
    withoutRenditions ((Style.sequence code).toList ++ rest) = withoutRenditions rest := by
  have htext : (Style.sequence code).toList ++ rest =
      '\x1b' :: '[' :: ((toString code).toList ++ 'm' :: rest) := by
    simp [Style.sequence]
  have hafter : afterRendition? ('\x1b' :: '[' :: ((toString code).toList ++ 'm' :: rest)) =
      some rest :=
    afterParameters?_digits (fun c hc => isDigit_of_mem_toString hc) rest
  rw [htext, withoutRenditions]
  split
  · next hsome =>
    rw [hafter] at hsome
    cases hsome
    rfl
  · next hnone =>
    rw [hafter] at hnone
    cases hnone

theorem withoutRenditions_sequences (codes : List Nat) (rest : List Char) :
    withoutRenditions ((String.join (codes.map Style.sequence)).toList ++ rest) =
      withoutRenditions rest := by
  induction codes with
  | nil =>
      rfl
  | cons code codes ih =>
      rw [List.map_cons, String.join_cons, String.toList_append, List.append_assoc,
        withoutRenditions_sequence, ih]

/-! ## What styled texts show -/

/-- Without its escape sequences a text is another one, whatever follows it. -/
def ShowsAs (styled shown : String) : Prop :=
  ∀ rest, withoutRenditions (styled.toList ++ rest) = shown.toList ++ withoutRenditions rest

namespace ShowsAs

variable {s s' t t' : String}

theorem refl (h : IsPlain s) : ShowsAs s s :=
  withoutRenditions_append h

theorem append (h : ShowsAs s t) (h' : ShowsAs s' t') : ShowsAs (s ++ s') (t ++ t') := by
  intro rest
  rw [String.toList_append, List.append_assoc, h, h', String.toList_append, List.append_assoc]

/-- A style is not to be seen in what a text shows. -/
theorem apply (style : Style) (h : IsPlain s) : ShowsAs (style.apply s) s := by
  unfold Style.apply
  split
  · exact .refl h
  · intro rest
    rw [String.toList_append, String.toList_append, List.append_assoc, List.append_assoc,
      withoutRenditions_sequences, withoutRenditions_append h, withoutRenditions_sequence]

theorem lines {styled shown : List String} (h : List.Forall₂ ShowsAs styled shown) :
    ShowsAs (String.join (styled.map (· ++ "\n"))) (String.join (shown.map (· ++ "\n"))) := by
  induction h with
  | nil =>
      exact .refl (by decide)
  | cons hline _ ih =>
      rw [List.map_cons, List.map_cons, String.join_cons, String.join_cons]
      exact (hline.append (.refl (by decide))).append ih

theorem withoutRenditions_eq (h : ShowsAs s t) :
    String.ofList (withoutRenditions s.toList) = t := by
  have hall := h []
  rw [List.append_nil, withoutRenditions, List.append_nil] at hall
  rw [hall, String.ofList_toList]

end ShowsAs

end Text

/-! ## Reports -/

namespace Report

open Text (IsPlain ShowsAs withoutRenditions isPlain_append isPlain_toString isPlain_join)

variable {r : Report} {title : String} {f : Findings}

/-- The location and the messages are without the escape character. -/
structure Plain (r : Report) : Prop where
  location : IsPlain r.location
  messages : ∀ d ∈ r.findings, IsPlain d.message

theorem Plain.messages_ofSeverity (h : r.Plain) (severity : Severity) :
    ∀ d ∈ r.findings.ofSeverity severity, IsPlain d.message :=
  fun d hd => h.messages d (List.mem_filter.1 hd).1

theorem showsAs_block (htitle : IsPlain title) (hmessages : ∀ d ∈ f, IsPlain d.message)
    {styled shown : String} (hmark : ShowsAs styled shown) :
    List.Forall₂ ShowsAs (block title styled f) (block title shown f) := by
  unfold block
  split
  · exact .nil
  · have hhead : IsPlain (title ++ " (" ++ toString f.length ++ "):") := by
      simp only [isPlain_append, htitle, isPlain_toString, true_and, and_true]
      decide
    refine .cons (.refl (by decide)) (.cons (.refl hhead) ?_)
    rw [List.forall₂_map_left_iff, List.forall₂_map_right_iff, List.forall₂_same]
    intro d hd
    have hlead : ShowsAs ("  " ++ styled ++ "  ") ("  " ++ shown ++ "  ") :=
      ((ShowsAs.refl (by decide)).append hmark).append (.refl (by decide))
    exact hlead.append (.refl (hmessages d hd))

theorem isPlain_counts (r : Report) : IsPlain r.counts := by
  unfold counts
  split <;>
  · simp only [isPlain_append, isPlain_toString, true_and, and_true]
    decide

theorem isPlain_verdict (passed : Bool) : IsPlain (verdict passed) := by
  cases passed <;> decide

theorem showsAs_result (palette : Palette) (r : Report) :
    ShowsAs (result palette r) (result .plain r) := by
  have hplain : (if r.passed then Palette.plain.passed else Palette.plain.failed).apply
      (verdict r.passed) = verdict r.passed := by
    cases r.passed <;> rfl
  rw [result_eq, result_eq .plain, hplain]
  exact (ShowsAs.apply _ (isPlain_verdict _)).append (.refl (isPlain_counts r))

/-- Line by line, a styled report shows as the plain one. -/
theorem showsAs_lines (h : r.Plain) (palette : Palette) :
    List.Forall₂ ShowsAs (lines palette r) (lines .plain r) := by
  have hheading : IsPlain ("Validating: " ++ r.location) :=
    (isPlain_append _ _).2 ⟨by decide, h.location⟩
  have hrule : IsPlain rule := by
    decide
  have hwarnings := showsAs_block (show IsPlain "Warnings" by decide)
    (h.messages_ofSeverity .warning)
    (ShowsAs.apply palette.warning (s := warningMark) (by decide))
  have herrors := showsAs_block (show IsPlain "Errors" by decide) (h.messages_ofSeverity .error)
    (ShowsAs.apply palette.error (s := errorMark) (by decide))
  have hheadings : List.Forall₂ ShowsAs ["Validating: " ++ r.location, rule]
      ["Validating: " ++ r.location, rule] :=
    .cons (.refl hheading) (.cons (.refl hrule) .nil)
  have hend : List.Forall₂ ShowsAs ["", result palette r] ["", result .plain r] :=
    .cons (.refl (by decide)) (.cons (showsAs_result palette r) .nil)
  exact List.rel_append (List.rel_append (List.rel_append hheadings hwarnings) herrors) hend

/-- Without its escape sequences, a report in any palette is the plain one. -/
theorem withoutRenditions_human (h : r.Plain) (palette : Palette) :
    String.ofList (withoutRenditions (human palette r).toList) = human .plain r :=
  (ShowsAs.lines (showsAs_lines h palette)).withoutRenditions_eq

theorem isPlain_block {mark : String} (htitle : IsPlain title) (hmark : IsPlain mark)
    (hmessages : ∀ d ∈ f, IsPlain d.message) : ∀ line ∈ block title mark f, IsPlain line := by
  unfold block
  split
  · simp
  · have hblanks : IsPlain "  " := by
      decide
    simp only [List.forall_mem_cons, List.forall_mem_map, item, isPlain_append, htitle, hmark,
      hblanks, isPlain_toString, true_and, and_true]
    exact ⟨by decide, ⟨by decide, by decide⟩, hmessages⟩

theorem isPlain_human_iff (palette : Palette) (r : Report) :
    IsPlain (human palette r) ↔ ∀ line ∈ lines palette r, IsPlain line := by
  have hbreak : IsPlain "\n" := by
    decide
  rw [human, isPlain_join, List.forall_mem_map]
  simp only [isPlain_append, hbreak, and_true]

/-- A report without styles has the escape character only from what it is about. -/
theorem isPlain_human (h : r.Plain) : IsPlain (human .plain r) := by
  rw [isPlain_human_iff]
  intro line hline
  simp only [lines, List.mem_append, List.mem_cons, List.not_mem_nil, or_false] at hline
  rcases hline with ((((rfl | rfl) | hwarning) | herror) | rfl | rfl)
  · exact (isPlain_append _ _).2 ⟨by decide, h.location⟩
  · decide
  · exact isPlain_block (by decide) (by decide) (h.messages_ofSeverity .warning) line hwarning
  · exact isPlain_block (by decide) (by decide) (h.messages_ofSeverity .error) line herror
  · decide
  · rw [result_eq, isPlain_append]
    refine ⟨?_, isPlain_counts r⟩
    cases r.passed <;> decide

/-- With colors, the line of the result has an escape sequence. -/
theorem not_isPlain_human (r : Report) : ¬ IsPlain (human .colored r) := by
  rw [isPlain_human_iff]
  intro hall
  have hresult := hall (result .colored r) (by simp [lines])
  rw [result_eq, isPlain_append] at hresult
  revert hresult
  cases r.passed <;> exact fun h => absurd h.1 (by decide)

/-- Colors change nothing but the looks of a report: say that its location and messages are without
the escape character. Then the report, without its escape sequences, is the plain one, whether
colors are wanted and shown or not; if they are not wanted, or not shown, it is the plain one as it
is; and the escape character stands in it just if they are both. -/
theorem withoutRenditions_human_choose (h : r.Plain) (wanted shown : Bool) :
    String.ofList (withoutRenditions (human (.choose wanted shown) r).toList) =
        human .plain r ∧
      (wanted = false ∨ shown = false → human (.choose wanted shown) r = human .plain r) ∧
      (IsPlain (human (.choose wanted shown) r) ↔ wanted = false ∨ shown = false) := by
  have hnone : wanted = false ∨ shown = false → Palette.choose wanted shown = .plain := by
    rintro (rfl | rfl)
    · rfl
    · cases wanted <;> rfl
  refine ⟨withoutRenditions_human h _, fun hoff => by rw [hnone hoff], ?_⟩
  constructor
  · intro hplain
    by_contra hon
    rw [not_or, Bool.not_eq_false, Bool.not_eq_false] at hon
    rw [hon.1, hon.2] at hplain
    exact not_isPlain_human r hplain
  · intro hoff
    rw [hnone hoff]
    exact isPlain_human h

/-! ### Messages that look like escape sequences -/

/-- A report whose message has everything of an escape sequence but its first character. -/
def bracketed : Report :=
  ⟨"[1m/ci.yml", [Diagnostic.warning "r" "[33;1m is [0m", Diagnostic.error "r" "0m"], false⟩

theorem bracketed_plain : bracketed.Plain where
  location := by decide
  messages := by decide

/-- Nothing is taken from the messages. -/
theorem withoutRenditions_human_choose_bracketed :
    bracketed.Plain ∧
      String.ofList (withoutRenditions (human (.choose true true) bracketed).toList) =
        human .plain bracketed ∧
      ¬ IsPlain (human (.choose true true) bracketed) := by
  rcases withoutRenditions_human_choose bracketed_plain true true with ⟨hsame, _, hplain⟩
  exact ⟨bracketed_plain, hsame, fun h => absurd (hplain.1 h) (by decide)⟩

end Report

end WorkflowLint
