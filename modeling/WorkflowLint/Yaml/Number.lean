import WorkflowLint.Decimal.Shortest

/-!
# Numbers of a document

A number is an integer or a binary floating-point number. Its text is decimal: integers
plainly, other numbers by their shortest digits, and the three that have no digits as
`.inf`, `-.inf` and `.nan`.
-/

namespace WorkflowLint
namespace Yaml

/-- A number of a document. -/
inductive Number
  | integer (n : Int)
  | real (x : Binary64)
  deriving DecidableEq, Repr

namespace Number

/-- Equality of numbers as keys: an integer never equals a floating-point number. -/
def same : Number → Number → Bool
  | .integer m, .integer n => m == n
  | .real x, .real y => x.same y
  | _, _ => false

/-- A minus sign where it is needed. -/
def sign (negative : Bool) : String :=
  if negative then "-" else ""

/-- The text of a floating-point number in a document. -/
def realText : Binary64 → String
  | .finite s 0 _ => sign s ++ "0.0"
  | .finite s m e => sign s ++ (Shortest.decimal m e).scientific
  | .infinite s => sign s ++ ".inf"
  | .nan => ".nan"

/-- The text of a number in a document. -/
def text : Number → String
  | .integer n => toString n
  | .real x => realText x

/-- The text of a floating-point number in a message: never with a power of ten, and whole
numbers with `.0`. -/
def plainRealText : Binary64 → String
  | .finite s 0 _ => sign s ++ "0.0"
  | .finite s m e =>
    let d := Shortest.decimal m e
    sign s ++ d.positional ++ (if 0 ≤ d.exponent then ".0" else "")
  | .infinite s => sign s ++ "inf"
  | .nan => "NaN"

end Number

end Yaml
end WorkflowLint
