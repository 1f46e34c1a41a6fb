import WorkflowLint.Proofs.Lines
import WorkflowLint.Proofs.References.Cover

/-!
# Lines — the scan for references goes line by line

The scan carries its place through a whole text, and a reference is taken as far as its name goes.
But a character that neither an owner nor a slash nor a name holds ends every reference that comes
before it, and none begins with it or goes across it (`Reference.Separates`). So the scan of two
texts with such a character between them is the scan of the one and then that of the other
(`Reference.scan_append_cons`). If the owner has no line feed, a line feed is such a character: the
rule finds in a text what it finds in its lines (`RepoReferences.check_eq_by_lines`).
-/

namespace WorkflowLint

open Text (IsLine)

namespace Reference

/-! ## Characters between references -/

/-- A character that no reference to a repository of the owner holds. -/
structure Separates (owner : List Char) (c : Char) : Prop where
  owner : c ∉ owner
  slash : c ≠ '/'
  name : isNameChar c = false

variable {owner found text : List Char} {c : Char}

/-- What does not hold a character begins in front of it just if it ends there as well. -/
theorem prefix_append_cons_iff {lead : List Char} (hc : c ∉ lead) (front back : List Char) :
    lead <+: front ++ c :: back ↔ lead <+: front := by
  constructor
  · intro h
    rcases List.prefix_or_prefix_of_prefix h (List.prefix_append front (c :: back)) with
      hlead | ⟨rest, rfl⟩
    · exact hlead
    · rw [List.prefix_append_right_inj] at h
      rcases List.prefix_cons_iff.1 h with rfl | ⟨more, rfl, _⟩
      · simp
      · exact absurd (List.mem_append_right front List.mem_cons_self) hc
  · intro h
    exact h.trans (List.prefix_append front (c :: back))

/-- What is found at the beginning of a text does not depend on what follows a separator. -/
theorem atStart?_append_cons (h : Separates owner c) (front back : List Char) :
    atStart? owner (front ++ c :: back) = atStart? owner front := by
  have hlead : c ∉ owner ++ ['/'] := by
    simp [h.owner, h.slash]
  have hsame : (owner ++ ['/']).isPrefixOf (front ++ c :: back) =
      (owner ++ ['/']).isPrefixOf front := by
    rw [Bool.eq_iff_iff, List.isPrefixOf_iff_prefix, List.isPrefixOf_iff_prefix,
      prefix_append_cons_iff hlead]
  simp only [atStart?, hsame]
  cases hfront : (owner ++ ['/']).isPrefixOf front with
  | false =>
      rfl
  | true =>
      -- the name lies in front of the separator, too
      have hlen := (List.isPrefixOf_iff_prefix.1 hfront).length_le
      have hname : ∀ d, (c :: back).head? = some d → isNameChar d = false := by
        rintro d ⟨⟩
        exact h.name
      rw [List.drop_append_of_le_length hlen, takeWhile_append_of_head? hname]

theorem prefix_of_atStart? (h : atStart? owner text = some found) : found <+: text := by
  unfold atStart? at h
  simp only at h
  split at h
  · next hlead =>
    rcases List.isPrefixOf_iff_prefix.1 hlead with ⟨rest, rfl⟩
    rw [List.drop_left] at h
    split at h
    · cases h
    · cases h
      rw [List.prefix_append_right_inj]
      exact List.takeWhile_prefix _
  · cases h

/-! ## The scan -/

/-- From any state of its walk in front of a separator on, the scan finds what there is in front of
it, and begins anew behind it. -/
theorem scan_append_cons (h : Separates owner c) (front back : List Char) (skip : Nat)
    (hskip : skip ≤ front.length) :
    scan owner skip (front ++ c :: back) = scan owner skip front ++ scan owner 0 back := by
  -- on the text in front; the characters that are skipped lie in it, for they are a reference's
  induction front generalizing skip with
  | nil =>
      have hzero : skip = 0 := Nat.le_zero.1 hskip
      have hnone : atStart? owner (c :: back) = none := by
        rw [← List.nil_append (c :: back), atStart?_append_cons h]
        simp [atStart?]
      simp only [hzero, List.nil_append, scan, hnone]
  | cons d front ih =>
      cases skip with
      | succ skip =>
          rw [List.cons_append, scan, scan]
          exact ih skip (Nat.le_of_succ_le_succ hskip)
      | zero =>
          have hsame := atStart?_append_cons h (d :: front) back
          rw [List.cons_append] at hsame
          simp only [List.cons_append, scan, hsame]
          cases hfound : atStart? owner (d :: front) with
          | none =>
              exact ih 0 (Nat.zero_le _)
          | some found =>
              have hlen := (prefix_of_atStart? hfound).length_le
              rw [List.length_cons] at hlen
              have hrest := ih (found.length - 1) (by omega)
              simp only [hrest, List.cons_append]

/-- Where the owner has no line feed, the references of a text are those of its first lines and
then those of the others. -/
theorem findAll_append_newline {owner : String} (howner : IsLine owner) (first others : String) :
    findAll owner (first ++ "\n" ++ others) = findAll owner first ++ findAll owner others := by
  have hbreak : Separates owner.toList '\n' :=
    { owner := howner, slash := by decide, name := by decide }
  have hscan := scan_append_cons hbreak first.toList others.toList 0 (Nat.zero_le _)
  simp [findAll, hscan]

end Reference

/-! ## The rule -/

namespace Text

/-- A text with more lines below it. Its last line and each of the others end with a line feed. -/
def withLines (text : String) (lines : List String) : String :=
  (if text.toList.getLast?.all (· == '\n') then text else text ++ "\n") ++
    String.join (lines.map (· ++ "\n"))

/-- What the lines stand below: nothing, or a text whose last line has been ended. -/
theorem withLines_cases (text : String) (lines : List String) :
    (text = "" ∧ withLines text lines = String.join (lines.map (· ++ "\n"))) ∨
      ∃ start, (text = start ∨ text = start ++ "\n") ∧
        withLines text lines = start ++ "\n" ++ String.join (lines.map (· ++ "\n")) := by
  unfold withLines
  split
  · next hend =>
    cases hlast : text.toList.getLast? with
    | none =>
        have hnil : text = "" := by
          simpa using hlast
        exact .inl ⟨hnil, by rw [hnil, String.empty_append]⟩
    | some c =>
        have hc : c = '\n' := by
          simpa [hlast] using hend
        have htext : text = String.ofList text.toList.dropLast ++ "\n" := by
          rw [← String.toList_inj, String.toList_append, String.toList_ofList]
          exact (List.dropLast_append_getLast? c hlast).symm.trans (by rw [hc]; rfl)
        exact .inr ⟨_, .inr htext, by rw [← htext]⟩
  · exact .inr ⟨text, .inl rfl, rfl⟩

/-- A text is its lines, the last of which is what follows the last line feed. -/
theorem intercalate_splitOn_newline (text : String) :
    "\n".intercalate ((text.toList.splitOn '\n').map String.ofList) = text := by
  have hlines : ((text.toList.splitOn '\n').map String.ofList).map String.toList =
      text.toList.splitOn '\n' := by
    simp
  rw [← String.toList_inj, String.toList_intercalate, hlines]
  exact List.intercalate_splitOn '\n'

end Text

namespace RepoReferences

variable {p : Policy}

theorem checkSource_append_newline (howner : IsLine p.owner) (first others : String) :
    checkSource p (first ++ "\n" ++ others) = checkSource p first ++ checkSource p others := by
  rw [checkSource, Reference.findAll_append_newline howner, List.filter_append, List.map_append]
  rfl

theorem checkSource_empty (p : Policy) : checkSource p "" = [] := by
  simp [checkSource, Reference.findAll, Reference.scan]

/-- A line feed at the end of a text makes no difference. -/
theorem checkSource_endLine (howner : IsLine p.owner) (text : String) :
    checkSource p (text ++ "\n") = checkSource p text := by
  have hsplit := checkSource_append_newline howner text ""
  rwa [String.append_empty, checkSource_empty, List.append_nil] at hsplit

theorem checkSource_intercalate (howner : IsLine p.owner) (lines : List String) :
    checkSource p ("\n".intercalate lines) = lines.flatMap (checkSource p) := by
  induction lines with
  | nil =>
      exact checkSource_empty p
  | cons line lines ih =>
      cases lines with
      | nil =>
          simp
      | cons next lines =>
          rw [String.intercalate_cons_cons, checkSource_append_newline howner, ih,
            List.flatMap_cons (x := line)]

theorem checkSource_join (howner : IsLine p.owner) (lines : List String) :
    checkSource p (String.join (lines.map (· ++ "\n"))) = lines.flatMap (checkSource p) := by
  induction lines with
  | nil =>
      exact checkSource_empty p
  | cons line lines ih =>
      rw [List.map_cons, String.join_cons, checkSource_append_newline howner, ih,
        List.flatMap_cons]

/-- Lines below a text add what is found in them. -/
theorem checkSource_withLines (howner : IsLine p.owner) (text : String) (lines : List String) :
    checkSource p (Text.withLines text lines) =
      checkSource p text ++ lines.flatMap (checkSource p) := by
  rcases Text.withLines_cases text lines with ⟨rfl, hlines⟩ | ⟨start, hstart, hlines⟩
  · rw [hlines, checkSource_join howner, checkSource_empty, List.nil_append]
  · have htext : checkSource p text = checkSource p start := by
      rcases hstart with rfl | rfl
      · rfl
      · exact checkSource_endLine howner start
    rw [hlines, checkSource_append_newline howner, checkSource_join howner, htext]

/-- Where the owner has no line feed, the rule goes line by line, whatever the trees of the
workflows are: of a text with a line feed in it, it finds what it finds in the part before and then
what it finds in the part behind; of a whole text, what it finds in its lines in order; and of a
text with more lines below it, such as comments, what it finds in the text and then what it finds
in these lines. -/
theorem check_eq_by_lines (howner : IsLine p.owner) :
    (∀ whole first others : Workflow, whole.source = first.source ++ "\n" ++ others.source →
      rule.check whole p = rule.check first p ++ rule.check others p) ∧
    (∀ w : Workflow, rule.check w p =
      (w.source.toList.splitOn '\n').flatMap fun line =>
        rule.check { w with source := String.ofList line } p) ∧
    (∀ (whole w : Workflow) (lines : List String), whole.source = Text.withLines w.source lines →
      rule.check whole p = rule.check w p ++ lines.flatMap fun line =>
        rule.check { whole with source := line } p) := by
  refine ⟨?_, ?_, ?_⟩
  · intro whole first others hwhole
    show checkSource p whole.source = _
    rw [hwhole, checkSource_append_newline howner]
    rfl
  · intro w
    show checkSource p w.source = _
    conv_lhs => rw [← Text.intercalate_splitOn_newline w.source]
    rw [checkSource_intercalate howner, List.flatMap_map]
    rfl
  · intro whole w lines hwhole
    show checkSource p whole.source = _
    rw [hwhole, checkSource_withLines howner]
    rfl

/-- The owner at the end of a line and a slash at the beginning of the next make no reference. -/
theorem check_eq_by_lines_straddling :
    IsLine Policy.standard.owner ∧
      rule.check ⟨[], false, "# maceip\n/other maceip/fork"⟩ Policy.standard =
        rule.check ⟨[], false, "# maceip"⟩ Policy.standard ++
          rule.check ⟨[], true, "/other maceip/fork"⟩ Policy.standard ∧
      rule.check ⟨[], false, "# maceip\n/other maceip/fork"⟩ Policy.standard =
        [incorrect "maceip/MediaMaid" "maceip/fork"] := by
  have howner : IsLine Policy.standard.owner := by
    decide
  have hsplit := (check_eq_by_lines howner).1 ⟨[], false, "# maceip\n/other maceip/fork"⟩
    ⟨[], false, "# maceip"⟩ ⟨[], true, "/other maceip/fork"⟩ (by decide)
  exact ⟨howner, hsplit, by decide +kernel⟩

/-- An owner with a line feed is found across two lines. -/
example :
    checkSource { Policy.standard with expectedRepo := "a\nb/c" } "a\nb/d" ≠
      checkSource { Policy.standard with expectedRepo := "a\nb/c" } "a" ++
        checkSource { Policy.standard with expectedRepo := "a\nb/c" } "b/d" := by
  decide +kernel

end RepoReferences

end WorkflowLint
