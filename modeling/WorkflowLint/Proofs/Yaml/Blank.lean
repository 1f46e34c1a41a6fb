import Mathlib.Data.List.Infix
import WorkflowLint.Proofs.Yaml.Nodes
import WorkflowLint.Text.Blank

/-!
# Blank texts — white space holds no mapping

A mapping is made from tokens that say so: an opening token, or the sign of a key. The scanner
makes none of these from white space, which gives plain scalars at most. So the value of a blank
text is no mapping (`Value.isBlankText_of_parse_mapping`), and it does not matter whether texts are
asked to be more than blank before they are read, or after.

The argument follows the stages of reading: tokens (`Scanner.Quiet` is what each step keeps),
events, steps, the root of the tree and its value.
-/

namespace WorkflowLint
namespace Yaml

/-! ## Characters -/

/-- White space is none of the characters that structure a text. -/
theorem ne_of_isBlank {x y : Char} (h : Text.isBlank x = true) (hy : Text.isBlank y = false) :
    x ≠ y := by
  rintro rfl
  rw [h] at hy
  cases hy

/-! ## Tokens -/

/-- The token begins a mapping. -/
def TokenKind.opensMapping : TokenKind → Bool
  | .blockMappingStart | .flowMappingStart | .key => true
  | _ => false

theorem PlainScalar.rest_suffix_of_scan {s : Setting} {text : String} {gap : Option Gap} {m : Mark}
    {cs : List Char} {r : PlainScalar} (h : scan s text gap m cs = .ok r) : r.next.rest <:+ cs := by
  fun_induction scan s text gap m cs with
  | case1 =>
      cases h
      exact List.suffix_rfl
  | case2 =>
      rename_i rest ih
      exact (ih h).trans (List.suffix_append ['\r', '\n'] rest)
  | case3 | case7 =>
      cases h
  | case6 | case8 =>
      cases h
      exact List.suffix_rfl
  | case4 | case5 | case9 =>
      rename_i ih
      exact (ih h).trans (List.suffix_cons _ _)

namespace Scanner

theorem rest_skipBlank_suffix (inFlow keyAllowed inComment : Bool) (m : Mark) (text : List Char) :
    (skipBlank inFlow keyAllowed inComment m text).2.rest <:+ text := by
  fun_induction skipBlank inFlow keyAllowed inComment m text with
  | case1 =>
      exact List.suffix_rfl
  | case2 =>
      rename_i rest ih
      exact ih.trans (List.suffix_append ['\r', '\n'] rest)
  | case3 | case4 | case5 =>
      rename_i ih
      exact ih.trans (List.suffix_cons _ _)
  | case6 =>
      exact List.suffix_rfl

/-- Nothing but white space is left, and no token made so far begins a mapping. -/
structure Quiet (s : Scanner) : Prop where
  rest : ∀ c ∈ s.cursor.rest, Text.isBlank c = true
  made : ∀ t ∈ s.made, t.kind.opensMapping = false

/-- A scanner that has the same left and the same made. -/
def Agrees (s t : Scanner) : Prop :=
  t.cursor.rest = s.cursor.rest ∧ t.made = s.made

namespace Quiet

variable {s t : Scanner}

theorem of_agrees (h : s.Quiet) (ht : Agrees s t) : t.Quiet where
  rest := by
    rw [ht.1]
    exact h.rest
  made := by
    rw [ht.2]
    exact h.made

theorem push (h : s.Quiet) {k : Token} (hk : k.kind.opensMapping = false) : (s.push k).Quiet where
  rest := h.rest
  made := by
    intro k' hk'
    rcases List.mem_cons.1 hk' with rfl | hk'
    · exact hk
    · exact h.made k' hk'

theorem move (h : s.Quiet) {c : Cursor} (hc : c.rest <:+ s.cursor.rest) :
    Quiet { s with cursor := c } where
  rest := by
    intro x hx
    exact h.rest x (hc.subset hx)
  made := h.made

theorem closeFrom (h : s.Quiet) (column indent : Int) (indents : List Int) :
    (Scanner.closeFrom column s indent indents).Quiet := by
  induction indents generalizing s indent with
  | nil =>
      exact h.of_agrees ⟨rfl, rfl⟩
  | cons outer rest ih =>
      rw [Scanner.closeFrom]
      split
      · exact ih (h.push rfl) outer
      · exact h.of_agrees ⟨rfl, rfl⟩

theorem closeBlocks (h : s.Quiet) (column : Int) : (s.closeBlocks column).Quiet := by
  unfold Scanner.closeBlocks
  split
  · exact h
  · exact h.closeFrom column _ _

theorem skip (h : s.Quiet) : s.skip.Quiet := by
  have hrest := rest_skipBlank_suffix s.inFlow s.keyAllowed false s.mark s.cursor.rest
  exact (h.move hrest).of_agrees ⟨rfl, rfl⟩

theorem dropStale (h : s.Quiet) (ht : s.dropStale = .ok t) : t.Quiet := by
  unfold Scanner.dropStale at ht
  split at ht
  · cases ht
  · cases ht
    exact h.of_agrees ⟨rfl, rfl⟩

theorem dropKey (h : s.Quiet) (ht : s.dropKey = .ok t) : t.Quiet := by
  unfold Scanner.dropKey at ht
  split at ht
  · split at ht
    · cases ht
    · cases ht
      exact h.of_agrees ⟨rfl, rfl⟩
  · cases ht
    exact h

theorem saveKey (h : s.Quiet) (ht : s.saveKey = .ok t) : t.Quiet := by
  unfold Scanner.saveKey at ht
  split at ht
  · rcases of_bind_eq_ok ht with ⟨s', hs', ht⟩
    cases ht
    exact (h.dropKey hs').of_agrees ⟨rfl, rfl⟩
  · cases ht
    exact h

theorem readPlain (h : s.Quiet) (ht : s.readPlain = .ok t) : t.Quiet := by
  unfold Scanner.readPlain at ht
  rcases of_bind_eq_ok ht with ⟨s', hs', ht⟩
  rcases of_bind_eq_ok ht with ⟨scalar, hscalar, ht⟩
  cases ht
  have hmade := (h.saveKey hs').push (k := ⟨.scalar .plain scalar.text, s'.mark,
    scalar.next.mark⟩) rfl
  exact (hmade.move (PlainScalar.rest_suffix_of_scan hscalar)).of_agrees ⟨rfl, rfl⟩

/-- White space can begin nothing but a plain scalar. -/
theorem readToken {x : Char} {rest : List Char} (h : s.Quiet) (hrest : s.cursor.rest = x :: rest)
    (ht : s.readToken x = .ok t) : t.Quiet := by
  have hx : Text.isBlank x = true := h.rest x (by simp [hrest])
  have hne : ∀ y : Char, Text.isBlank y = false → (x == y) = false := by
    intro y hy
    simpa using ne_of_isBlank hx hy
  have hmarker : ∀ y : Char, Text.isBlank y = false →
      startsWithMarker y s.cursor.rest = false := by
    intro y hy
    rw [hrest]
    cases rest with
    | nil => rfl
    | cons b rest =>
        cases rest with
        | nil => rfl
        | cons c rest => simp [startsWithMarker, hne y hy]
  unfold Scanner.readToken at ht
  simp only [hne '%' (by decide), hmarker '-' (by decide), hmarker '.' (by decide),
    hne '[' (by decide), hne '{' (by decide), hne ']' (by decide), hne '}' (by decide),
    hne ',' (by decide), hne '-' (by decide), hne '?' (by decide), hne ':' (by decide),
    hne '*' (by decide), hne '&' (by decide), hne '!' (by decide), hne '|' (by decide),
    hne '>' (by decide), hne '\'' (by decide), hne '"' (by decide), Bool.and_false,
    Bool.false_and, Bool.false_eq_true, if_false] at ht
  split at ht
  · cases ht
  · exact h.readPlain ht

theorem atEnd (h : s.Quiet) (ht : s.atEnd = .ok t) : t.Quiet := by
  unfold Scanner.atEnd at ht
  rcases of_bind_eq_ok ht with ⟨s', hs', ht⟩
  cases ht
  have hplaced : ∀ m, Quiet { s with cursor := ⟨s.cursor.rest, m⟩ } := fun m =>
    h.move (c := ⟨s.cursor.rest, m⟩) List.suffix_rfl
  have hclosed := ((hplaced _).closeBlocks (-1)).dropKey hs'
  exact (hclosed.push (k := ⟨.streamEnd, _, _⟩) rfl).of_agrees ⟨rfl, rfl⟩

/-- A step leaves the scanner quiet. -/
theorem step {more : Bool} (h : s.Quiet) (ht : s.step = .ok (t, more)) : t.Quiet := by
  unfold Scanner.step at ht
  rcases of_bind_eq_ok ht with ⟨s', hs', ht⟩
  have hready := (h.skip.dropStale hs').closeBlocks s'.mark.column
  simp only at ht
  split at ht
  · rcases of_bind_eq_ok ht with ⟨s₁, hs₁, ht⟩
    rcases of_bind_eq_ok ht with ⟨s₂, hs₂, ht⟩
    cases ht
    exact (hready.atEnd hs₁).dropStale hs₂
  · next hrest =>
    rcases of_bind_eq_ok ht with ⟨s₁, hs₁, ht⟩
    rcases of_bind_eq_ok ht with ⟨s₂, hs₂, ht⟩
    cases ht
    exact (hready.readToken hrest hs₁).dropStale hs₂

/-- A quiet scanner makes no token that begins a mapping. -/
theorem run (defect : Option Defect) (n : Nat) (h : s.Quiet) :
    ∀ t ∈ (Scanner.run defect n s).tokens, t.kind.opensMapping = false := by
  induction n generalizing s with
  | zero =>
      intro t ht
      exact h.made t (List.mem_reverse.1 ht)
  | succ n ih =>
      -- where the stream breaks off, some of the tokens made are taken back
      have hbroken : ∀ e, ∀ t ∈ (s.breakOff e).tokens, t.kind.opensMapping = false := by
        intro e t ht
        exact h.made t (List.mem_reverse.1 (List.mem_of_mem_take ht))
      rw [Scanner.run]
      split
      · exact hbroken _
      · next t more hstep =>
        have hquiet := h.step hstep
        split
        · exact hbroken _
        · split
          · exact ih hquiet
          · intro k hk
            exact hquiet.made k (List.mem_reverse.1 hk)

end Quiet

end Scanner

/-- No token of a blank text begins a mapping. -/
theorem opensMapping_of_isBlankText {text : String} (h : Text.isBlankText text = true) :
    ∀ t ∈ (TokenStream.ofSource (.ofString text)).tokens, t.kind.opensMapping = false := by
  have hstart : (Scanner.start text.toList).Quiet :=
    ⟨List.all_eq_true.1 h, fun t ht => absurd ht List.not_mem_nil⟩
  exact hstart.run _ _

/-! ## Events -/

/-- The event begins a mapping. -/
def Event.opensMapping : Event → Bool
  | .mappingStart _ _ => true
  | _ => false

namespace Goal

variable {handles : List (String × Octets)} {t : Token} {g : Goal} {r : Reaction}

theorem opensMapping_of_nodeContent {context : Context} {lead : Lead}
    (h : nodeContent handles t context lead = .ok r) (ht : t.kind.opensMapping = false) :
    ∀ e ∈ r.events, e.opensMapping = false := by
  unfold nodeContent at h
  rcases of_bind_eq_ok h with ⟨tag, _, h⟩
  -- the arms for the tokens that begin mappings are the only ones that make such events
  repeat' split at h
  all_goals simp only [take, leave, Token.refuse, Except.ok.injEq, reduceCtorEq] at h
  all_goals subst h
  all_goals simp_all [Event.opensMapping, TokenKind.opensMapping]

theorem opensMapping_of_expand (h : expand handles t g = .ok r)
    (ht : t.kind.opensMapping = false) : ∀ e ∈ r.events, e.opensMapping = false := by
  cases g
  case node context lead =>
    simp only [expand, nodePart] at h
    split at h
    case h_4 => exact opensMapping_of_nodeContent h ht
    all_goals
      simp only [take, Except.ok.injEq] at h
      subst h
      simp [Event.opensMapping]
  all_goals
    simp only [expand, documentPart, directive, nodeUnless] at h
    repeat' split at h
    all_goals
      simp only [take, leave, Token.refuse, Token.refuseAlone, Except.ok.injEq, reduceCtorEq] at h
  all_goals subst h
  all_goals simp_all [Event.opensMapping, TokenKind.opensMapping, emptyScalar]

end Goal

theorem EventStream.opensMapping_of_read (failure : Option Error)
    (handles : List (String × Octets)) (goals : List Goal) (tokens : List Token)
    (h : ∀ t ∈ tokens, t.kind.opensMapping = false) :
    ∀ e ∈ (read failure handles goals tokens).events, e.opensMapping = false := by
  fun_induction read failure handles goals tokens with
  | case1 | case2 | case3 =>
      simp
  | case4 =>
      rename_i g goals t tokens r hexpand rest ih
      intro e he
      rcases List.mem_append.1 he with he | he
      · exact Goal.opensMapping_of_expand hexpand (h t (by simp)) e he
      · refine ih ?_ e he
        intro k hk
        split at hk
        · exact h k (List.mem_cons_of_mem _ hk)
        · exact h k hk

/-! ## Steps and the root of the tree -/

/-- The step begins a mapping. -/
def Step.opensMapping : Step → Bool
  | .open _ _ isMapping => isMapping
  | _ => false

theorem Steps.opensMapping_of_collect (failure : Option Error) (a : Anchors) (number : Nat)
    (events : List Event) (h : ∀ e ∈ events, e.opensMapping = false) :
    ∀ s ∈ (collect failure a number events).steps, s.opensMapping = false := by
  fun_induction collect failure a number events with
  | _ => simp_all [Steps.cons, Step.opensMapping, Event.opensMapping]

/-- The node is a mapping. -/
def Node.isMapping : Node → Bool
  | .content _ _ _ (.mapping _) => true
  | _ => false

theorem OpenNode.isMapping_toNode {o : OpenNode} (h : o.isMapping = false) :
    o.toNode.isMapping = false := by
  simp [OpenNode.toNode, Node.isMapping, h]

theorem Node.isMapping_closeAll {n : Node} {opened : List OpenNode} (hn : n.isMapping = false)
    (h : ∀ o ∈ opened, o.isMapping = false) : (closeAll n opened).isMapping = false := by
  induction opened generalizing n with
  | nil =>
      exact hn
  | cons o opened ih =>
      refine ih (OpenNode.isMapping_toNode ?_) ?_
      · exact h o (by simp)
      · intro o' ho'
        exact h o' (List.mem_cons_of_mem _ ho')

theorem Node.isMapping_build (targets : Nat → Nat) (number : Nat) (opened : List OpenNode)
    (steps : List Step) (hopened : ∀ o ∈ opened, o.isMapping = false)
    (hsteps : ∀ s ∈ steps, s.opensMapping = false) :
    (build targets number opened steps).isMapping = false := by
  fun_induction build targets number opened steps with
  | case1 =>
      exact isMapping_closeAll rfl hopened
  | case2 | case3 | case6 | case8 =>
      rename_i ih
      refine ih ?_ ?_ <;> simp_all [Step.opensMapping, OpenNode.push]
  | case4 =>
      exact OpenNode.isMapping_toNode (hopened _ (by simp))
  | case5 | case7 | case9 =>
      rfl

/-- The root is no mapping if no event begins one. -/
theorem Document.isMapping_root_ofEvents {s : EventStream} {n : Node}
    (h : ∀ e ∈ s.events, e.opensMapping = false) (hn : (ofEvents s).root = some n) :
    n.isMapping = false := by
  have hsteps := Steps.opensMapping_of_collect s.failure .empty 0 s.events h
  unfold ofEvents at hn
  simp only at hn
  split at hn
  · cases hn
  · cases hn
    exact Node.isMapping_build _ 0 [] _ (fun o ho => absurd ho List.not_mem_nil) hsteps

/-! ## Values -/

namespace Value

variable {d : Document} {entries : List (Value × Value)}

/-- A text that holds a mapping is not blank. -/
theorem isBlankText_of_parse_mapping {text : String} (h : parse text = .ok (.mapping entries)) :
    Text.isBlankText text = false := by
  by_contra hblank
  rw [Bool.not_eq_false] at hblank
  rcases root_of_ofDocument_eq_mapping h with ⟨_, _, _, _, _, hroot, _⟩
  have hevents := EventStream.opensMapping_of_read
    (TokenStream.ofSource (.ofString text)).failure [] [.document true] _
    (opensMapping_of_isBlankText hblank)
  cases Document.isMapping_root_ofEvents hevents hroot

end Value

end Yaml
end WorkflowLint
