import Mathlib.Data.List.TakeWhile
import WorkflowLint.Rules.References

/-!
# Covers — what the scan for references finds

The scan for references goes through a text once and does not look into what it has taken. This
module says what it finds without speaking of a walk:

* `Reference.OccursAt` — the owner, a slash and a name character stand in sequence at a position;
* `Reference.IsReference` — a span is the owner, a slash and a whole run of name characters;
* `Reference.Covers` — references in order, no two of which touch, in which each occurrence lies.

A text has one cover (`Covers.unique`), and the scan finds it (`exists_covers_scan`). Positions
count characters.
-/

namespace WorkflowLint

/-! ## Spans -/

/-- A run of characters of a text. -/
structure Span where
  start : Nat
  length : Nat
  deriving DecidableEq, Repr

namespace Span

/-- The position after the last character. -/
def stop (s : Span) : Nat :=
  s.start + s.length

/-- The characters of the span. -/
def slice (text : List Char) (s : Span) : List Char :=
  (text.drop s.start).take s.length

/-- A span lies in front of the characters from its stop on. -/
theorem slice_append_drop (text : List Char) (s : Span) :
    s.slice text ++ text.drop s.stop = text.drop s.start := by
  have hsplit := List.take_append_drop s.length (text.drop s.start)
  rw [List.drop_drop] at hsplit
  exact hsplit

/-- The text of the span. -/
def text (source : String) (s : Span) : String :=
  String.ofList (s.slice source.toList)

end Span

namespace Reference

/-! ## Occurrences and references -/

/-- The owner, a slash and a name character stand in sequence at a position. -/
def OccursAt (owner text : List Char) (i : Nat) : Prop :=
  ∃ c rest, text.drop i = owner ++ '/' :: c :: rest ∧ isNameChar c = true

/-- The text of the occurrence at a position: with all name characters that follow the slash. -/
def textAt (owner text : List Char) (i : Nat) : List Char :=
  owner ++ '/' :: (text.drop (i + (owner.length + 1))).takeWhile isNameChar

/-- A span of a text is a reference: the owner, a slash and a run of name characters, which is not
empty and cannot be made longer. -/
structure IsReference (owner text : List Char) (s : Span) : Prop where
  inside : s.stop ≤ text.length
  shape : ∃ name, s.slice text = owner ++ '/' :: name ∧ name ≠ [] ∧
    ∀ c ∈ name, isNameChar c = true
  maximal : ∀ c, text[s.stop]? = some c → isNameChar c = false

variable {owner text : List Char} {s t : Span} {spans : List Span} {i k : Nat}

/-- Behind the owner and the slash. -/
theorem drop_lead {rest : List Char} (h : text.drop i = owner ++ '/' :: rest) :
    text.drop (i + (owner.length + 1)) = rest := by
  rw [← List.drop_drop, h]
  simp

/-- A name goes as far as its text does, if that is followed by the end or by another character. -/
theorem takeWhile_append_of_head? {name after : List Char}
    (h : ∀ c, after.head? = some c → isNameChar c = false) :
    (name ++ after).takeWhile isNameChar = name.takeWhile isNameChar := by
  induction name with
  | nil =>
      cases after with
      | nil =>
          rfl
      | cons c after =>
          simp [h c rfl]
  | cons c name ih =>
      rw [List.cons_append, List.takeWhile_cons, List.takeWhile_cons, ih]

/-- What lies at an occurrence: its text, and something that does not go on with a name. -/
theorem OccursAt.split (h : OccursAt owner text i) :
    ∃ name after, text.drop i = textAt owner text i ++ after ∧
      textAt owner text i = owner ++ '/' :: name ∧ name ≠ [] ∧
      (∀ c ∈ name, isNameChar c = true) ∧ ∀ c, after.head? = some c → isNameChar c = false := by
  rcases h with ⟨c, rest, hdrop, hc⟩
  have hrest := drop_lead hdrop
  refine ⟨(c :: rest).takeWhile isNameChar, (c :: rest).dropWhile isNameChar, ?_, ?_, ?_, ?_, ?_⟩
  · rw [textAt, hrest, hdrop, List.append_assoc, List.cons_append, List.takeWhile_append_dropWhile]
  · rw [textAt, hrest]
  · simp [hc]
  · intro d hd
    exact List.mem_takeWhile_imp hd
  · intro d hd
    have hall := List.head?_dropWhile_not isNameChar (c :: rest)
    rw [hd] at hall
    simpa using hall

/-- An occurrence, taken as far as its name goes, is a reference. -/
theorem OccursAt.isReference (h : OccursAt owner text i) :
    IsReference owner text ⟨i, (textAt owner text i).length⟩ := by
  rcases h.split with ⟨name, after, hdrop, htext, hne, hname, hafter⟩
  have hslice : Span.slice text ⟨i, (textAt owner text i).length⟩ = textAt owner text i := by
    rw [Span.slice, hdrop, List.take_left]
  refine ⟨?_, ⟨name, hslice.trans htext, hne, hname⟩, ?_⟩
  · have hlen : text.length - i = (textAt owner text i).length + after.length := by
      rw [← List.length_drop, hdrop, List.length_append]
    have hpos : 0 < (textAt owner text i).length := by
      rw [htext, List.length_append, List.length_cons]
      omega
    show i + (textAt owner text i).length ≤ text.length
    omega
  · intro c hc
    apply hafter
    have hstop : after.head? = text[i + (textAt owner text i).length]? := by
      rw [← List.getElem?_drop, hdrop, List.getElem?_append_right (Nat.le_refl _), Nat.sub_self,
        List.head?_eq_getElem?]
    exact hstop.trans hc

/-- At the start of a reference there is an occurrence. -/
theorem IsReference.occursAt (h : IsReference owner text s) : OccursAt owner text s.start := by
  rcases h.shape with ⟨name, hslice, hne, hname⟩
  cases name with
  | nil =>
      exact absurd rfl hne
  | cons c name =>
      refine ⟨c, name ++ text.drop s.stop, ?_, hname c (by simp)⟩
      rw [← s.slice_append_drop text, hslice]
      simp

/-- A reference holds the text of the occurrence at its start. -/
theorem IsReference.slice_eq (h : IsReference owner text s) :
    s.slice text = textAt owner text s.start := by
  rcases h.shape with ⟨name, hslice, _, hname⟩
  have hrest : text.drop (s.start + (owner.length + 1)) = name ++ text.drop s.stop := by
    apply drop_lead
    rw [← s.slice_append_drop text, hslice, List.append_assoc, List.cons_append]
  -- the run ends where the span does, for what follows is no name character
  have hafter : ∀ c, (text.drop s.stop).head? = some c → isNameChar c = false := by
    intro c hc
    rw [List.head?_drop] at hc
    exact h.maximal c hc
  rw [hslice, textAt, hrest, takeWhile_append_of_head? hafter, List.takeWhile_eq_self_iff.2 hname]

theorem IsReference.length_eq (h : IsReference owner text s) :
    s.length = (textAt owner text s.start).length := by
  have hinside : s.start + s.length ≤ text.length := h.inside
  rw [← h.slice_eq, Span.slice, List.length_take, List.length_drop]
  omega

theorem IsReference.start_lt_stop (h : IsReference owner text s) : s.start < s.stop := by
  have hlen := h.length_eq
  simp only [textAt, List.length_append, List.length_cons] at hlen
  show s.start < s.start + s.length
  omega

/-- Two references that start at one position are the same. -/
theorem IsReference.eq_of_start_eq (hs : IsReference owner text s) (ht : IsReference owner text t)
    (hstart : s.start = t.start) : s = t := by
  have hlen : s.length = t.length := by
    rw [hs.length_eq, ht.length_eq, hstart]
  cases s
  cases t
  simp_all

/-! ## Covers -/

/-- The references of a text from a position on, in order: each begins where the one before it
has ended or later, and each occurrence lies in one of them. -/
structure Covers (owner text : List Char) (k : Nat) (spans : List Span) : Prop where
  references : ∀ s ∈ spans, IsReference owner text s
  behind : ∀ s ∈ spans, k ≤ s.start
  ordered : spans.Pairwise fun s t => s.stop ≤ t.start
  complete : ∀ i, k ≤ i → OccursAt owner text i → ∃ s ∈ spans, s.start ≤ i ∧ i < s.stop

namespace Covers

theorem nil (h : ∀ i, k ≤ i → ¬ OccursAt owner text i) : Covers owner text k [] where
  references := by simp
  behind := by simp
  ordered := List.Pairwise.nil
  complete := by
    intro i hi hocc
    exact absurd hocc (h i hi)

/-- A position without an occurrence can be passed by. -/
theorem of_succ (hi : ¬ OccursAt owner text i) (h : Covers owner text (i + 1) spans) :
    Covers owner text i spans where
  references := h.references
  behind := by
    intro s hs
    exact Nat.le_of_succ_le (h.behind s hs)
  ordered := h.ordered
  complete := by
    intro j hj hocc
    have hne : j ≠ i := by
      rintro rfl
      exact hi hocc
    exact h.complete j (by omega) hocc

theorem cons (hs : IsReference owner text s) (h : Covers owner text s.stop spans) :
    Covers owner text s.start (s :: spans) where
  references := by
    intro t ht
    rcases List.mem_cons.1 ht with rfl | ht
    · exact hs
    · exact h.references t ht
  behind := by
    intro t ht
    rcases List.mem_cons.1 ht with rfl | ht
    · exact Nat.le_refl _
    · exact Nat.le_trans (Nat.le_of_lt hs.start_lt_stop) (h.behind t ht)
  ordered := List.pairwise_cons.2 ⟨h.behind, h.ordered⟩
  complete := by
    intro i hi hocc
    by_cases hstop : i < s.stop
    · exact ⟨s, List.mem_cons_self, hi, hstop⟩
    · rcases h.complete i (Nat.le_of_not_lt hstop) hocc with ⟨t, ht, hit⟩
      exact ⟨t, List.mem_cons_of_mem _ ht, hit⟩

/-- Without its first reference, a cover covers what lies behind it. -/
theorem tail (h : Covers owner text k (s :: spans)) : Covers owner text s.stop spans where
  references := by
    intro t ht
    exact h.references t (List.mem_cons_of_mem _ ht)
  behind := (List.pairwise_cons.1 h.ordered).1
  ordered := (List.pairwise_cons.1 h.ordered).2
  complete := by
    intro i hi hocc
    have hk : k ≤ i := by
      have hstart := h.behind s List.mem_cons_self
      have hlt := (h.references s List.mem_cons_self).start_lt_stop
      omega
    rcases h.complete i hk hocc with ⟨t, ht, hle, hlt⟩
    rcases List.mem_cons.1 ht with rfl | ht
    · omega
    · exact ⟨t, ht, hle, hlt⟩

/-- The first reference of a cover begins at the first occurrence. -/
theorem head_start_le (h : Covers owner text k (s :: spans)) (hk : k ≤ i)
    (hi : OccursAt owner text i) : s.start ≤ i := by
  rcases h.complete i hk hi with ⟨t, ht, hle, _⟩
  rcases List.mem_cons.1 ht with rfl | ht
  · exact hle
  · have hlt := (h.references s List.mem_cons_self).start_lt_stop
    have hst := (List.pairwise_cons.1 h.ordered).1 t ht
    omega

/-- Each reference of a cover is where an occurrence is, behind the position. -/
theorem occursAt_of_mem (h : Covers owner text k spans) (hs : s ∈ spans) :
    k ≤ s.start ∧ OccursAt owner text s.start :=
  ⟨h.behind s hs, (h.references s hs).occursAt⟩

/-- A text has at most one cover. -/
theorem unique {others : List Span} (h : Covers owner text k spans)
    (h' : Covers owner text k others) : spans = others := by
  -- both covers begin with the reference at the first occurrence, and their tails cover the same
  induction spans generalizing k others with
  | nil =>
      cases others with
      | nil =>
          rfl
      | cons t others =>
          rcases h'.occursAt_of_mem List.mem_cons_self with ⟨hk, hocc⟩
          rcases h.complete t.start hk hocc with ⟨s, hs, _⟩
          exact absurd hs List.not_mem_nil
  | cons s spans ih =>
      rcases h.occursAt_of_mem List.mem_cons_self with ⟨hk, hocc⟩
      cases others with
      | nil =>
          rcases h'.complete s.start hk hocc with ⟨t, ht, _⟩
          exact absurd ht List.not_mem_nil
      | cons t others =>
          rcases h'.occursAt_of_mem List.mem_cons_self with ⟨hk', hocc'⟩
          have hstart : s.start = t.start :=
            Nat.le_antisymm (h.head_start_le hk' hocc') (h'.head_start_le hk hocc)
          have hst : s = t :=
            (h.references s List.mem_cons_self).eq_of_start_eq
              (h'.references t List.mem_cons_self) hstart
          subst hst
          rw [ih h.tail h'.tail]

end Covers

/-! ## The scan -/

theorem atStart?_of_occursAt (h : OccursAt owner text i) :
    atStart? owner (text.drop i) = some (textAt owner text i) := by
  rcases h with ⟨c, rest, hdrop, hc⟩
  have hlead : (owner ++ ['/']).isPrefixOf (text.drop i) = true := by
    rw [hdrop, List.isPrefixOf_iff_prefix]
    exact ⟨c :: rest, by simp⟩
  have hrest := drop_lead hdrop
  simp [atStart?, hlead, hrest, hc, textAt]

theorem atStart?_of_not_occursAt (h : ¬ OccursAt owner text i) :
    atStart? owner (text.drop i) = none := by
  by_cases hlead : (owner ++ ['/']).isPrefixOf (text.drop i) = true
  · rcases List.isPrefixOf_iff_prefix.1 hlead with ⟨rest, hrest⟩
    have hnone : rest.takeWhile isNameChar = [] := by
      cases rest with
      | nil =>
          rfl
      | cons c rest =>
          have hc : ¬ isNameChar c = true := by
            intro hc
            exact h ⟨c, rest, by rw [← hrest]; simp, hc⟩
          simp [hc]
    have hdrop : (text.drop i).drop (owner ++ ['/']).length = rest := by
      rw [← hrest, List.drop_left]
    simp only [atStart?, hlead, hdrop, hnone, if_true, List.isEmpty_nil]
  · simp [atStart?, hlead]

/-- From any state of its walk on, the scan finds the texts of a cover. -/
theorem exists_covers_scan (owner text rest : List Char) (skip i : Nat)
    (hrest : text.drop i = rest) :
    ∃ spans, Covers owner text (i + skip) spans ∧
      spans.map (Span.slice text) = scan owner skip rest := by
  -- on what is left of the text; while characters are skipped, the cover still to come begins
  -- behind them
  induction rest generalizing skip i with
  | nil =>
      refine ⟨[], Covers.nil ?_, by simp [scan]⟩
      rintro j hj ⟨c, more, hdrop, _⟩
      -- nothing is left to stand at or behind the end
      have hlen := congrArg List.length hdrop
      have hend := congrArg List.length hrest
      simp only [List.length_drop, List.length_append, List.length_cons, List.length_nil]
        at hlen hend
      omega
  | cons c rest ih =>
      have hnext : text.drop (i + 1) = rest := by
        rw [← List.drop_drop, hrest]
        rfl
      cases skip with
      | succ skip =>
          rcases ih skip (i + 1) hnext with ⟨spans, hspans, htexts⟩
          refine ⟨spans, ?_, by rw [htexts, scan]⟩
          rwa [show i + (skip + 1) = i + 1 + skip by omega]
      | zero =>
          by_cases hocc : OccursAt owner text i
          · -- the walk goes on one character further, with all others of the reference to skip
            have href := hocc.isReference
            have hlen : (textAt owner text i).length = owner.length +
                ((text.drop (i + (owner.length + 1))).takeWhile isNameChar).length + 1 := by
              simp only [textAt, List.length_append, List.length_cons]
              omega
            rcases ih ((textAt owner text i).length - 1) (i + 1) hnext with ⟨spans, hspans, htexts⟩
            rw [show i + 1 + ((textAt owner text i).length - 1) = i + (textAt owner text i).length
              by omega] at hspans
            refine ⟨⟨i, (textAt owner text i).length⟩ :: spans, Covers.cons href hspans, ?_⟩
            have hfound := atStart?_of_occursAt hocc
            rw [hrest] at hfound
            rw [List.map_cons, htexts, href.slice_eq, scan, hfound]
          · rcases ih 0 (i + 1) hnext with ⟨spans, hspans, htexts⟩
            have hnone := atStart?_of_not_occursAt hocc
            rw [hrest] at hnone
            refine ⟨spans, hspans.of_succ hocc, ?_⟩
            rw [htexts, scan, hnone]

/-- Every text has a cover, and the scan finds its texts. -/
theorem exists_covers_findAll (owner source : String) :
    ∃ spans, Covers owner.toList source.toList 0 spans ∧
      findAll owner source = spans.map (Span.text source) := by
  rcases exists_covers_scan owner.toList source.toList source.toList 0 0 rfl with
    ⟨spans, hspans, htexts⟩
  refine ⟨spans, hspans, ?_⟩
  rw [findAll, ← htexts, List.map_map]
  rfl

end Reference

/-! ## The rule -/

namespace RepoReferences

open Reference (Covers)

/-- The rule reports the references of a cover that differ from the expected one. -/
theorem check_eq_of_covers {p : Policy} {w : Workflow} {spans : List Span}
    (h : Covers p.owner.toList w.source.toList 0 spans) :
    rule.check w p = (spans.filter fun s => s.text w.source != p.expectedRepo).map fun s =>
      incorrect p.expectedRepo (s.text w.source) := by
  rcases Reference.exists_covers_findAll p.owner w.source with ⟨others, hothers, htexts⟩
  have hsame : others = spans := hothers.unique h
  subst hsame
  calc
    rule.check w p
        = ((others.map (Span.text w.source)).filter (· != p.expectedRepo)).map
            (incorrect p.expectedRepo) := by rw [← htexts]; rfl
    _ = ((others.filter fun s => s.text w.source != p.expectedRepo).map (Span.text w.source)).map
            (incorrect p.expectedRepo) := by rw [List.filter_map]; rfl
    _ = (others.filter fun s => s.text w.source != p.expectedRepo).map fun s =>
            incorrect p.expectedRepo (s.text w.source) := by rw [List.map_map]; rfl

/-- The text of a workflow has one cover by references to the owner of the expected repository.
The rule makes one error of each of them that differs from the expected one, in order, and makes
nothing else. -/
theorem exists_covers_check (p : Policy) (w : Workflow) :
    ∃ spans, Covers p.owner.toList w.source.toList 0 spans ∧
      (∀ others, Covers p.owner.toList w.source.toList 0 others → others = spans) ∧
      rule.check w p = (spans.filter fun s => s.text w.source != p.expectedRepo).map fun s =>
        incorrect p.expectedRepo (s.text w.source) := by
  rcases Reference.exists_covers_findAll p.owner w.source with ⟨spans, hspans, _⟩
  refine ⟨spans, hspans, ?_, check_eq_of_covers hspans⟩
  intro others hothers
  exact hothers.unique hspans

end RepoReferences

end WorkflowLint
