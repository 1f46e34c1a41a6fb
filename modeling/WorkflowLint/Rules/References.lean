import WorkflowLint.Rule
import WorkflowLint.Text.Word

/-!
# The rule about references to repositories

A reference is the owner of the expected repository, a slash and the longest run of word
characters and hyphens that follows, at least one. References are looked for in the text of
the workflow from left to right, and one that begins inside another does not count.
-/

namespace WorkflowLint

namespace Reference

/-- A character of a repository's name. -/
def isNameChar (c : Char) : Bool :=
  Text.isWord c || c == '-'

/-- The reference at the beginning of a text. -/
def atStart? (owner text : List Char) : Option (List Char) :=
  let lead := owner ++ ['/']
  if lead.isPrefixOf text then
    let name := (text.drop lead.length).takeWhile isNameChar
    if name.isEmpty then none else some (lead ++ name)
  else none

/-- The references of a text, of which the first `skip` characters belong to a reference
found before. -/
def scan (owner : List Char) : Nat → List Char → List (List Char)
  | _, [] => []
  | skip + 1, _ :: rest => scan owner skip rest
  | 0, c :: rest =>
    match atStart? owner (c :: rest) with
    -- the first character of what was found is at hand, the others are skipped
    | some found => found :: scan owner (found.length - 1) rest
    | none => scan owner 0 rest

/-- The references of a text to repositories of an owner, in order. -/
def findAll (owner source : String) : List String :=
  (scan owner.toList 0 source.toList).map String.ofList

end Reference

namespace RepoReferences

/-- The identifier of the rule. -/
def id : String :=
  "repo-references"

/-- The diagnostic for a reference to another repository than the expected one. -/
def incorrect (expected found : String) : Diagnostic :=
  (Diagnostic.error id
    ("Incorrect repo reference '" ++ found ++ "', expected '" ++ expected ++ "'")).suggest
    ("Replace '" ++ found ++ "' with '" ++ expected ++ "'")

/-- It is an error of this rule, and says what was found and what was expected. -/
theorem incorrect_eq (expected found : String) :
    incorrect expected found =
      { rule := id
        severity := .error
        message := "Incorrect repo reference '" ++ found ++ "', expected '" ++ expected ++ "'"
        suggestion := some ("Replace '" ++ found ++ "' with '" ++ expected ++ "'") } :=
  rfl

/-- The message holds the reference as it was found. -/
theorem contains_message_incorrect (expected found : String) :
    Text.contains (incorrect expected found).message found = true := by
  rw [Text.contains, Text.occursIn_iff_isInfix, incorrect_eq]
  simp only [String.toList_append, List.append_assoc]
  exact List.infix_append' _ _ _

/-- Errors for different references are different. -/
theorem incorrect_injective {expected found found' : String}
    (h : incorrect expected found = incorrect expected found') : found = found' := by
  have hmessage := congrArg Diagnostic.message h
  simpa only [incorrect_eq, String.append_left_inj, String.append_right_inj] using hmessage

/-- One error for each reference to another repository than the expected one. The owner is taken as
it is written, so a search can be set up for every owner. What is left out is that a search may be
refused because the owner is too long, with one error that says so in place of all others. -/
def checkSource (p : Policy) (source : String) : Findings :=
  ((Reference.findAll p.owner source).filter (· != p.expectedRepo)).map (incorrect p.expectedRepo)

def rule : Rule where
  id := id
  name := "Repository References"
  description := "Ensures every owner/repo reference points at the expected repository"
  severity := .error
  check := fun w p => checkSource p w.source

end RepoReferences

end WorkflowLint
