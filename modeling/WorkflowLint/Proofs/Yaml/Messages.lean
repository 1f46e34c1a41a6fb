import WorkflowLint.Proofs.Lines
import WorkflowLint.Proofs.Yaml.Reading

/-!
# Messages — why an error's message takes more than one line

An error quotes the document. A scalar is quoted between quotes, where a line feed is written as
an escape; a key on the way to a place is quoted as it is. So nothing but such a key breaks the line
of a message (`Error.isLine_message_iff`), whatever text it was that could not be read
(`Value.contentOnOneLine_of_parse_eq_error`).
-/

namespace WorkflowLint

open Text (IsLine isLine_append isLine_join isLine_literal isLine_ofList isLine_toString)

/-! ## Quoted texts -/

namespace Text

theorem isLine_quotedChar (c : Char) : IsLine (quotedChar c) := by
  unfold quotedChar
  split
  case h_7 hnewline _ _ _ =>
    split
    · simp only [isLine_append, hexadecimal, isLine_ofList]
      exact ⟨⟨by decide, newline_not_mem_toDigits (by decide) _⟩, by decide⟩
    · simpa [IsLine] using Ne.symm hnewline
  all_goals decide

/-- Between quotes, line feeds are written otherwise. -/
theorem isLine_quoted (s : String) : IsLine (quoted s) := by
  have hchars : ∀ part ∈ s.toList.map quotedChar, IsLine part := by
    rw [List.forall_mem_map]
    exact fun c _ => isLine_quotedChar c
  simp only [quoted, isLine_append, isLine_join hchars]
  decide

end Text

/-! ## Numbers -/

theorem isLine_int (n : Int) : IsLine (toString n) := by
  cases n with
  | ofNat n =>
      exact isLine_toString n
  | negSucc n =>
      exact (isLine_append "-" (toString (n + 1))).2 ⟨by decide, isLine_toString _⟩

namespace Decimal

theorem toList_zeros (n : Int) : (zeros n).toList = List.replicate n.toNat '0' := by
  rw [zeros, String.pushn_eq_repeat_push]
  induction n.toNat with
  | zero =>
      rfl
  | succ n ih =>
      rw [Nat.repeat, String.toList_push, ih, List.replicate_succ']

theorem isLine_zeros (n : Int) : IsLine (zeros n) := by
  simp [IsLine, toList_zeros]

theorem isLine_withPoint {digits : String} (h : IsLine digits) (n : Nat) :
    IsLine (withPoint digits n) := by
  simp only [withPoint, isLine_append, isLine_ofList]
  exact ⟨⟨fun hmem => h (List.mem_of_mem_take hmem), by decide⟩,
    fun hmem => h (List.mem_of_mem_drop hmem)⟩

theorem isLine_positional (d : Decimal) : IsLine d.positional := by
  unfold positional
  dsimp only
  split
  · simp only [isLine_append, isLine_toString, isLine_zeros, and_self]
  · split
    · exact isLine_withPoint (isLine_toString _) _
    · simp only [isLine_append, isLine_toString, isLine_zeros, and_true]
      decide

theorem isLine_scientific (d : Decimal) : IsLine d.scientific := by
  unfold scientific
  dsimp only
  split
  · split
    · simp only [isLine_append, isLine_positional, true_and]
      decide
    · exact isLine_positional d
  · simp only [isLine_append, isLine_int, and_true]
    refine ⟨?_, by decide⟩
    split
    · exact isLine_toString _
    · exact isLine_withPoint (isLine_toString _) _

end Decimal

namespace Yaml

theorem Number.isLine_text (n : Number) : IsLine n.text := by
  have hsign : ∀ negative, IsLine (sign negative) := by
    decide
  cases n with
  | integer n =>
      exact isLine_int n
  | real x =>
      cases x with
      | finite negative m e =>
          cases m with
          | zero =>
              exact (isLine_append _ _).2 ⟨hsign negative, by decide⟩
          | succ m =>
              exact (isLine_append _ _).2 ⟨hsign negative, Decimal.isLine_scientific _⟩
      | infinite negative =>
          exact (isLine_append _ _).2 ⟨hsign negative, by decide⟩
      | nan =>
          decide

/-! ## Places and paths -/

theorem Mark.isLine_suffix (m : Mark) : IsLine m.suffix := by
  unfold suffix
  split
  · decide
  · simp only [describe, isLine_append, isLine_toString, and_true]
    decide

theorem SyntaxError.isLine_message (e : SyntaxError) : IsLine e.message := by
  have hproblem : IsLine e.problem.message := by
    cases e.problem <;> exact isLine_literal (by decide)
  simp only [message, isLine_append, hproblem, e.place.isLine_suffix, true_and]
  split
  · decide
  · next activity start _ =>
    have hactivity : IsLine activity.message := by
      cases activity <;> exact isLine_literal (by decide)
    simp only [isLine_append, hactivity, and_true]
    refine ⟨by decide, ?_⟩
    split
    · decide
    · exact start.isLine_suffix

/-- The keys on a path. -/
def Path.keys : Path → List String
  | .root => []
  | .item parent _ => parent.keys
  | .entry parent key => parent.keys ++ [key]
  | .unnamed parent => parent.keys
  | .alias parent => parent.keys

theorem Path.isLine_text_iff (p : Path) : IsLine p.text ↔ ∀ key ∈ p.keys, IsLine key := by
  have hpoint : IsLine "." := by decide
  have hbrackets : IsLine "[" ∧ IsLine "]" := by decide
  have hunnamed : IsLine "?" ∧ IsLine ".?" := by decide
  induction p with
  | root =>
      simp [text, keys, hpoint]
  | item parent index ih =>
      simp only [text, keys, isLine_append, hbrackets, isLine_toString, and_true, ih]
  | entry parent key ih =>
      cases parent <;> simp_all [text, keys, or_imp, forall_and, and_assoc]
  | unnamed parent ih =>
      cases parent <;> simp_all [text, keys]
  | «alias» parent ih =>
      exact ih

theorem Path.isLine_lead_iff (p : Path) : IsLine p.lead ↔ ∀ key ∈ p.keys, IsLine key := by
  rw [← isLine_text_iff]
  unfold lead
  dsimp only
  split
  · next hroot =>
    rw [eq_of_beq hroot]
    decide
  · simp only [isLine_append, and_iff_left_iff_imp]
    exact fun _ => by decide

/-! ## Errors -/

namespace Error

/-- The fault of the content, if that is the cause, is described on one line. -/
def ContentOnOneLine : Error → Prop
  | .content fault _ _ => IsLine fault.message
  | _ => True

@[simp] theorem contentOnOneLine_content {fault : ContentError} {place : Mark} {path : Path} :
    (content fault place path).ContentOnOneLine ↔ IsLine fault.message := by
  rw [ContentOnOneLine]

theorem contentOnOneLine_of_eq_none {failure : Option Error} (h : failure = none) :
    ∀ e ∈ failure, e.ContentOnOneLine := by
  subst h
  intro e he
  cases he

/-- The keys on the way to the cause. -/
def keys : Error → List String
  | .content _ _ path => path.keys
  | _ => []

theorem isLine_message_content {fault : ContentError} (h : IsLine fault.message) (place : Mark)
    (path : Path) :
    IsLine (content fault place path).message ↔ ∀ key ∈ path.keys, IsLine key := by
  unfold message
  simp only [isLine_append, place.isLine_suffix, h, path.isLine_lead_iff, and_true]

/-- Only the keys on the way to the cause can break the line of a message. -/
theorem isLine_message_iff {e : Error} (h : e.ContentOnOneLine) :
    IsLine e.message ↔ ∀ key ∈ e.keys, IsLine key := by
  cases e with
  | content fault place path =>
      exact isLine_message_content (contentOnOneLine_content.1 h) place path
  | malformed e =>
      exact iff_of_true e.isLine_message (List.forall_mem_nil _)
  | inadmissible offset =>
      refine iff_of_true ?_ (List.forall_mem_nil _)
      unfold message
      refine (isLine_append _ _).2 ⟨isLine_literal (by decide), ?_⟩
      split
      · decide
      · exact (isLine_append _ _).2 ⟨isLine_literal (by decide), isLine_toString offset⟩
  | unknownAnchor place =>
      refine iff_of_true ?_ (List.forall_mem_nil _)
      unfold message
      exact (isLine_append _ _).2 ⟨isLine_literal (by decide), place.isLine_suffix⟩
  | tooDeep place =>
      refine iff_of_true ?_ (List.forall_mem_nil _)
      unfold message
      exact (isLine_append _ _).2 ⟨isLine_literal (by decide), place.isLine_suffix⟩
  | tooManyAliases =>
      exact iff_of_true (isLine_literal (by decide)) (List.forall_mem_nil _)
  | severalDocuments =>
      exact iff_of_true (isLine_literal (by decide)) (List.forall_mem_nil _)

end Error

/-! ## What breaks a stream off -/

theorem Scanner.contentOnOneLine_of_isBlocked {defect : Option Defect} {first last : Mark} :
    ∀ e ∈ isBlocked defect first last, e.ContentOnOneLine := by
  intro e he
  unfold isBlocked at he
  split at he
  · split at he <;> cases he
    trivial
  · cases he

theorem Scanner.contentOnOneLine_of_run (defect : Option Defect) (left : Nat) (s : Scanner) :
    ∀ e ∈ (run defect left s).failure, e.ContentOnOneLine := by
  induction left generalizing s with
  | zero =>
      exact Error.contentOnOneLine_of_eq_none rfl
  | succ left ih =>
      unfold run
      dsimp only
      split
      · next e _ =>
        rintro _ ⟨⟩
        cases hblocked : isBlocked defect s.skip.mark e.place with
        | none => trivial
        | some e' => exact contentOnOneLine_of_isBlocked e' hblocked
      · next t more _ =>
        split
        · next e hblocked =>
          rintro _ ⟨⟩
          exact contentOnOneLine_of_isBlocked e hblocked
        · split
          · exact ih t
          · exact Error.contentOnOneLine_of_eq_none rfl

theorem EventStream.contentOnOneLine_of_read {failure : Option Error}
    (h : ∀ e ∈ failure, e.ContentOnOneLine) (handles : List (String × Octets))
    (goals : List Goal) (tokens : List Token) :
    ∀ e ∈ (read failure handles goals tokens).failure, e.ContentOnOneLine := by
  fun_induction read failure handles goals tokens with
  | case1 =>
      exact Error.contentOnOneLine_of_eq_none rfl
  | case2 =>
      exact h
  | case3 =>
      rintro _ ⟨⟩
      trivial
  | case4 _ _ _ _ _ _ _ _ ih =>
      exact ih

theorem Steps.contentOnOneLine_of_collect {failure : Option Error}
    (h : ∀ e ∈ failure, e.ContentOnOneLine) (a : Anchors) (number : Nat) (events : List Event) :
    ∀ e ∈ (collect failure a number events).failure, e.ContentOnOneLine := by
  induction events generalizing a number with
  | nil =>
      exact h
  | cons event events ih =>
      cases event with
      | «alias» mark name =>
          unfold collect
          split
          · rintro _ ⟨⟩
            trivial
          · exact ih a (number + 1)
      | documentEnd => exact Error.contentOnOneLine_of_eq_none rfl
      | streamEnd => exact Error.contentOnOneLine_of_eq_none rfl
      | _ => exact ih _ _

theorem Document.contentOnOneLine_of_ofString (s : String) :
    ∀ e ∈ (ofString s).failure, e.ContentOnOneLine :=
  Steps.contentOnOneLine_of_collect
    (EventStream.contentOnOneLine_of_read (Scanner.contentOnOneLine_of_run _ _ _) _ _ _) _ _ _

/-! ## Faults of content -/

theorem isLine_keyMessage (key : Value) : IsLine (keyMessage key) := by
  unfold keyMessage
  cases key with
  | null => decide
  | bool b => cases b <;> decide
  | number n => exact (isLine_append _ _).2 ⟨by decide, n.isLine_text⟩
  | string s => exact (isLine_append _ _).2 ⟨by decide, Text.isLine_quoted s⟩
  | _ => exact isLine_literal (by decide)

theorem isLine_message_invalidValue (text : String) {wanted : String} (h : IsLine wanted) :
    IsLine (ContentError.invalidValue text wanted).message := by
  have hlead : IsLine "invalid value: string " := isLine_literal (by decide)
  have hjoint : IsLine ", expected " := isLine_literal (by decide)
  unfold ContentError.message
  simp only [isLine_append, hlead, Text.isLine_quoted, hjoint, h, and_self]

theorem isLine_message_wideInteger (n : Int) {wanted : String} (h : IsLine wanted) :
    IsLine (ContentError.invalidType (.wideInteger n) wanted).message := by
  have hlead : IsLine "invalid type: " := isLine_literal (by decide)
  have hjoint : IsLine ", expected " := isLine_literal (by decide)
  have hbefore : IsLine "integer `" := by decide
  have hbehind : IsLine "` as " := by decide
  have hwidth : IsLine (if n < 0 then "i128" else "u128") := by
    split <;> decide
  unfold ContentError.message Found.message
  simp only [isLine_append, hlead, hbefore, isLine_int, hbehind, hwidth, hjoint, h, and_self]

theorem isLine_message_duplicateKey (key : Value) :
    IsLine (ContentError.duplicateKey key).message := by
  unfold ContentError.message
  exact (isLine_append _ _).2 ⟨isLine_literal (by decide), isLine_keyMessage key⟩

theorem Scalar.isLine_of_demand_eq_error {found : Option Meaning} {text wanted : String}
    {fault : ContentError} (hwanted : IsLine wanted)
    (h : demand found text wanted = .error fault) : IsLine fault.message := by
  cases found with
  | none =>
      cases h
      exact isLine_message_invalidValue text hwanted
  | some m =>
      cases h

theorem Scalar.isLine_of_resolve_eq_error {tag : Option Octets} {style : ScalarStyle}
    {text : String} {fault : ContentError} (h : resolve tag style text = .error fault) :
    IsLine fault.message := by
  unfold resolve at h
  split at h
  · cases h
  · -- each of the four standard tags makes a demand
    iterate 4
      split at h
      · exact isLine_of_demand_eq_error (by decide) h
    split at h <;> cases h

theorem Value.isLine_of_ofMeaning_eq_error {text : String} {m : Scalar.Meaning}
    {fault : ContentError} (h : ofMeaning text m = .error fault) : IsLine fault.message := by
  unfold ofMeaning at h
  split at h
  case h_3 n =>
    split at h
    · cases h
    · cases h
      exact isLine_message_wideInteger n (by decide)
  all_goals cases h

theorem Value.isLine_of_ofScalar_eq_error {tag : Option Octets} {style : ScalarStyle}
    {text : String} {fault : ContentError} (h : ofScalar tag style text = .error fault) :
    IsLine fault.message := by
  unfold ofScalar at h
  split at h
  · next name _ =>
    cases hmeaning : ofMeaning text (Scalar.untagged style text) with
    | error fault' =>
        rw [hmeaning] at h
        cases h
        exact isLine_of_ofMeaning_eq_error hmeaning
    | ok v =>
        rw [hmeaning] at h
        cases h
  · cases hresolve : Scalar.resolve tag style text with
    | error fault' =>
        rw [hresolve] at h
        cases h
        exact Scalar.isLine_of_resolve_eq_error hresolve
    | ok m =>
        rw [hresolve] at h
        exact isLine_of_ofMeaning_eq_error h

/-! ## What a reading fails with -/

/-- What a reading fails with, if it fails, has a fault of content that is described on one
line. -/
def Reading.FailsOnOneLine {α : Type} (r : Reading α) : Prop :=
  ∀ jumps e, r jumps = .error e → e.ContentOnOneLine

namespace Reading

variable {α β : Type}

theorem FailsOnOneLine.pure (a : α) : FailsOnOneLine (Pure.pure a : Reading α) := by
  intro jumps e h
  cases h

theorem FailsOnOneLine.fail {e : Error} (h : e.ContentOnOneLine) :
    FailsOnOneLine (fail e : Reading α) := by
  rintro jumps _ ⟨⟩
  exact h

theorem FailsOnOneLine.place {r : Except ContentError α}
    (h : ∀ fault, r = .error fault → IsLine fault.message) (mark : Mark) (path : Path) :
    (Reading.place mark path r).FailsOnOneLine := by
  cases r with
  | error fault => exact .fail (Error.contentOnOneLine_content.2 (h fault rfl))
  | ok a => exact .pure a

theorem FailsOnOneLine.bind {r : Reading α} {f : α → Reading β} (hr : r.FailsOnOneLine)
    (hf : ∀ a, (f a).FailsOnOneLine) : (r >>= f).FailsOnOneLine := by
  intro jumps e h
  cases hrun : r jumps with
  | error e' =>
      have hsame : e' = e := by simpa [Bind.bind, StateT.bind, Except.bind, hrun] using h
      exact hsame ▸ hr jumps e' hrun
  | ok result =>
      have hrest : f result.1 result.2 = .error e := by
        simpa [Bind.bind, StateT.bind, Except.bind, hrun] using h
      exact hf result.1 result.2 e hrest

end Reading

theorem Document.failsOnOneLine_follow (d : Document) (n : Node) (path : Path) :
    (d.follow n path).FailsOnOneLine := by
  unfold follow
  split
  · intro jumps e h
    dsimp only at h
    split at h
    · cases h
      trivial
    · cases h
  · exact .pure _

namespace Value

section

variable {read : Node → Path → Reading Value} (hread : ∀ n path, (read n path).FailsOnOneLine)

include hread

theorem failsOnOneLine_ofItems (path : Path) (i : Nat) (items : List Node) :
    (ofItems read path i items).FailsOnOneLine := by
  induction items generalizing i with
  | nil =>
      exact .pure _
  | cons n rest ih =>
      exact .bind (hread n _) fun v => .bind (ih (i + 1)) fun vs => .pure _

theorem failsOnOneLine_ofEntries (mark : Mark) (path : Path) (done : List (Value × Value))
    (entries : List (Node × Node)) : (ofEntries read mark path done entries).FailsOnOneLine := by
  induction entries generalizing done with
  | nil =>
      exact .pure _
  | cons entry rest ih =>
      refine .bind (hread entry.1 path) fun key => ?_
      split
      · next first _ =>
        exact .fail (Error.contentOnOneLine_content.2 (isLine_message_duplicateKey first))
      · exact .bind (hread entry.2 _) fun value => ih _

end

theorem failsOnOneLine_ofNode {d : Document} (h : ∀ e ∈ d.failure, e.ContentOnOneLine)
    (depth : Nat) (n : Node) (path : Path) : (ofNode d depth n path).FailsOnOneLine := by
  have hbreak : d.breakError.ContentOnOneLine := by
    unfold Document.breakError
    cases hfailure : d.failure with
    | none => trivial
    | some e => exact h e hfailure
  induction depth using Nat.strongRecOn generalizing n path with
  | ind depth ih =>
      unfold ofNode
      refine .bind (d.failsOnOneLine_follow n path) ?_
      rintro ⟨n, path⟩
      dsimp only
      split
      · exact .place (fun fault => isLine_of_ofScalar_eq_error) _ _
      · split
        · exact .fail trivial
        · next depth =>
          exact .bind (failsOnOneLine_ofItems (ih depth (Nat.lt_succ_self depth)) _ _ _)
            fun vs => .pure _
      · split
        · exact .fail trivial
        · next depth =>
          exact .bind (failsOnOneLine_ofEntries (ih depth (Nat.lt_succ_self depth)) _ _ _ _)
            fun entries => .pure _
      · exact .fail hbreak

end Value

theorem Document.contentOnOneLine_of_decode_eq_error {α : Type} {d : Document} {absent : α}
    {read : Node → Reading α} {e : Error} (hfailure : ∀ e ∈ d.failure, e.ContentOnOneLine)
    (hread : ∀ n, (read n).FailsOnOneLine) (h : d.decode absent read = .error e) :
    e.ContentOnOneLine := by
  -- behind its content, a document ends as one without content does
  have hend : ∀ a, ({ d with root := none } : Document).decode a read = .error e →
      e.ContentOnOneLine := by
    intro a h
    rcases of_bind_eq_error h with hcontent | ⟨_, -, h⟩
    · cases hcontent
    · split at h
      · next e' hbreak =>
        cases h
        exact hfailure e hbreak
      · split at h <;> cases h
        trivial
  unfold decode at h
  cases hroot : d.root with
  | none =>
      simp only [hroot] at h
      exact hend absent h
  | some n =>
      simp only [hroot] at h
      rcases of_bind_eq_error h with hcontent | ⟨a, -, h⟩
      · exact hread n 0 e (of_map_eq_error hcontent)
      · exact hend a h

/-- Whatever a text cannot be read for, only keys on the way there break the message's line. -/
theorem Value.contentOnOneLine_of_parse_eq_error {s : String} {e : Error}
    (h : parse s = .error e) : e.ContentOnOneLine :=
  have hfailure := Document.contentOnOneLine_of_ofString s
  Document.contentOnOneLine_of_decode_eq_error hfailure
    (fun n => failsOnOneLine_ofNode hfailure depthLimit n .root) h

end Yaml
end WorkflowLint
