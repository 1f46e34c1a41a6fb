import WorkflowLint.Decimal.Binary64

/-!
# Shortest decimal text of a binary floating-point number

The digits are the fewest that read back as the number; of equally short ones the nearest to
the number, and of two equally near the one that ends in an even digit. They are found by
trying the number's two neighbours on the decimal grids of one digit, two digits and so on;
seventeen digits are always enough.

Two layouts turn digits into text: `Decimal.scientific` writes a power of ten where the
number is very large or small, and `Decimal.positional` never does.
-/

namespace WorkflowLint

/-- A positive decimal number, `digits * 10 ^ exponent`. -/
structure Decimal where
  digits : Nat
  exponent : Int
  deriving DecidableEq, Repr

namespace Shortest

/-- A positive binary number `significand * 2 ^ exponent` as a quotient of natural numbers. -/
structure Quotient where
  num : Nat
  den : Nat

/-- `m * 2 ^ e` as a quotient. -/
def Quotient.ofBinary (m : Nat) (e : Int) : Quotient :=
  ⟨Binary64.shiftUp m e, Binary64.shiftUp 1 (-e)⟩

/-- `d * 10 ^ k` as a quotient. -/
def Quotient.ofDecimal (d : Nat) (k : Int) : Quotient :=
  ⟨d * Nat.pow 10 k.toNat, Nat.pow 10 (-k).toNat⟩

/-- Comparison of quotients by their cross products. -/
def Quotient.le (a b : Quotient) : Bool :=
  a.num * b.den ≤ b.num * a.den

/-- Strict comparison of quotients. -/
def Quotient.lt (a b : Quotient) : Bool :=
  a.num * b.den < b.num * a.den

/-- The numbers that read back as one binary number: those between the midpoints to its two
neighbours, with the midpoints themselves if the significand is even. -/
structure Interval where
  low : Quotient
  high : Quotient
  closed : Bool

/-- The interval of `m * 2 ^ e`. Below a power of two the lower neighbour is nearer, unless
the exponent is already the least one. -/
def Interval.ofBinary (m : Nat) (e : Int) : Interval where
  low :=
    if m == Nat.pow 2 (Binary64.precision - 1) && Binary64.leastExponent < e then
      .ofBinary (4 * m - 1) (e - 2)
    else
      .ofBinary (2 * m - 1) (e - 1)
  high := .ofBinary (2 * m + 1) (e - 1)
  closed := m % 2 == 0

/-- Whether a number reads back. -/
def Interval.contains (i : Interval) (x : Quotient) : Bool :=
  if i.closed then i.low.le x && x.le i.high else i.low.lt x && x.lt i.high

/-- The exponent `k` with `10 ^ k ≤ x < 10 ^ (k + 1)`, for a positive quotient: an estimate
from the binary order, which is right or one too small. -/
def decimalOrder (x : Quotient) : Int :=
  let estimate := Int.fdiv (Binary64.binaryOrder x.num x.den * 30103) 100000
  if (Quotient.ofDecimal 1 (estimate + 1)).le x then estimate + 1 else estimate

/-- The neighbour of `x` on the grid `10 ^ k` that reads back: of both the nearer, and of
two equally near the even one. -/
def onGrid? (i : Interval) (x : Quotient) (k : Int) : Option Nat :=
  let unit := Quotient.ofDecimal 1 k
  let num := x.num * unit.den
  let den := x.den * unit.num
  let below := num / den
  let nearest := Binary64.divNearest num den
  let other := if nearest == below then below + 1 else below
  -- the nearer neighbour may lie outside where the farther one does not
  if i.contains (.ofDecimal nearest k) then some nearest
  else if i.contains (.ofDecimal other k) then some other
  else none

/-- The first grid with a hit, from the grid `10 ^ k` through `fuel` finer ones; the last
resort is the finest grid. -/
def search (i : Interval) (x : Quotient) (k : Int) : Nat → Decimal
  | 0 => ⟨Binary64.divNearest (x.num * (Quotient.ofDecimal 1 k).den)
      (x.den * (Quotient.ofDecimal 1 k).num), k⟩
  | fuel + 1 =>
    match onGrid? i x k with
    | some d => ⟨d, k⟩
    | none => search i x (k - 1) fuel

/-- Moves zeros at the end of the digits into the exponent. -/
def dropZeros (d : Nat) (k : Int) : Nat → Decimal
  | 0 => ⟨d, k⟩
  | fuel + 1 => if d % 10 == 0 && d != 0 then dropZeros (d / 10) (k + 1) fuel else ⟨d, k⟩

/-- The shortest decimal of `m * 2 ^ e`, for positive `m`. -/
def decimal (m : Nat) (e : Int) : Decimal :=
  let x := Quotient.ofBinary m e
  let found := search (.ofBinary m e) x (decimalOrder x) 16
  dropZeros found.digits found.exponent 17

end Shortest

namespace Decimal

def zeros (n : Int) : String :=
  "".pushn '0' n.toNat

/-- Digits with a point after the first `n` of them. -/
def withPoint (digits : String) (n : Nat) : String :=
  String.ofList (digits.toList.take n) ++ "." ++ String.ofList (digits.toList.drop n)

/-- A positive decimal without a power of ten; whole numbers have no point. -/
def positional (d : Decimal) : String :=
  let digits := toString d.digits
  let point : Int := digits.length + d.exponent
  if 0 ≤ d.exponent then digits ++ zeros d.exponent
  else if 0 < point then withPoint digits point.toNat
  else "0." ++ zeros (-point) ++ digits

/-- A positive decimal with a power of ten from `1e16` on and below `1e-5`; whole numbers
below that end in `.0`. -/
def scientific (d : Decimal) : String :=
  let digits := toString d.digits
  let point : Int := digits.length + d.exponent
  if -5 < point && point ≤ 16 then
    if 0 ≤ d.exponent then d.positional ++ ".0" else d.positional
  else
    let mantissa := if digits.length == 1 then digits else withPoint digits 1
    mantissa ++ "e" ++ toString (point - 1)

end Decimal

end WorkflowLint
