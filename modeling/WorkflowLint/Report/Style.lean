/-!
# Styles

A style is a list of rendition codes. A styled text stands between the escape sequences of its
codes and one that ends them; a style without codes leaves the text alone.
-/

namespace WorkflowLint

/-- The rendition codes of a style. -/
structure Style where
  codes : List Nat
  deriving DecidableEq, Repr

namespace Style

/-- No style. -/
def plain : Style :=
  ⟨[]⟩

/-- The escape sequence of a code. -/
def sequence (code : Nat) : String :=
  "\x1b[" ++ toString code ++ "m"

def apply (style : Style) (text : String) : String :=
  if style.codes.isEmpty then text
  else String.join (style.codes.map sequence) ++ text ++ sequence 0

end Style

/-- The styles of a report. -/
structure Palette where
  warning : Style
  error : Style
  passed : Style
  failed : Style

namespace Palette

/-- The palette without styles. -/
def plain : Palette :=
  ⟨.plain, .plain, .plain, .plain⟩

/-- Yellow warnings, bold red errors, and the result in bold green or bold red. -/
def colored : Palette :=
  ⟨⟨[33]⟩, ⟨[31, 1]⟩, ⟨[32, 1]⟩, ⟨[31, 1]⟩⟩

/-- There are styles only if they are wanted and the place that is written to shows them. -/
def choose (wanted shown : Bool) : Palette :=
  if wanted && shown then colored else plain

end Palette

end WorkflowLint
