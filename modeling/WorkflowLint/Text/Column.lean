/-!
# Columns

Texts of a common width. A text that is too wide stays as it is.
-/

namespace WorkflowLint
namespace Text

/-- The blanks that a text lacks to a width. -/
def margin (width : Nat) (s : String) : String :=
  String.ofList (List.replicate (width - s.length) ' ')

/-- The text with blanks after it. -/
def padRight (width : Nat) (s : String) : String :=
  s ++ margin width s

/-- The text with blanks before it. -/
def padLeft (width : Nat) (s : String) : String :=
  margin width s ++ s

/-- The width of the widest text. -/
def widest (texts : List String) : Nat :=
  texts.foldl (fun width s => max width s.length) 0

end Text
end WorkflowLint
