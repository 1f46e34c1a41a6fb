/-!
# Properties of characters as ranges of code points

A property is a list of pairs, the first and the last code point of each range, in
increasing order.
-/

namespace WorkflowLint
namespace Text

/-- Some range holds the character. The search ends at the first range that begins above it. -/
def inRanges (ranges : List (Nat × Nat)) (c : Char) : Bool :=
  match ranges with
  | [] => false
  | (first, last) :: rest =>
    if c.toNat < first then false
    else if c.toNat ≤ last then true
    else inRanges rest c

end Text
end WorkflowLint
