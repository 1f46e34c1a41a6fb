/-!
# Texts inside texts

Whether a text occurs in another, character by character.
-/

namespace WorkflowLint
namespace Text

/-- A list of characters occurs in another as one run. -/
def occursIn (part : List Char) : List Char → Bool
  | [] => part.isEmpty
  | c :: rest => part.isPrefixOf (c :: rest) || occursIn part rest

theorem occursIn_iff_isInfix (part whole : List Char) :
    occursIn part whole = true ↔ part <:+: whole := by
  induction whole with
  | nil => simp [occursIn]
  | cons c rest ih => simp [occursIn, ih, List.infix_cons_iff]

/-- A text occurs in another; the empty text occurs in every one. -/
def contains (whole part : String) : Bool :=
  occursIn part.toList whole.toList

/-- The text with the letters `A` to `Z` made small. Of the other characters only the Kelvin
sign and the capital dotted I have letters of ASCII, `k` and `i`, in their lower-case forms,
so words without these are found as if all characters were made small
(`Text.contains_lowerLetters_iff_forms`). -/
def lowerLetters (s : String) : String :=
  s.map Char.toLower

end Text
end WorkflowLint
