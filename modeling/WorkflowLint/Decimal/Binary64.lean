/-!
# Binary floating-point numbers of 64 bits

A finite number is a sign, a significand below `2 ^ 53` and a power of two that is at least
`-1074`. A decimal numeral is read as the nearest such number; of two that are equally near,
the one with the even significand is taken. All arithmetic is exact, on natural numbers.
-/

namespace WorkflowLint

/-- A binary floating-point number: `± significand * 2 ^ exponent`, an infinity, or no number. -/
inductive Binary64
  | finite (negative : Bool) (significand : Nat) (exponent : Int)
  | infinite (negative : Bool)
  | nan
  deriving DecidableEq, Repr, Inhabited

namespace Binary64

/-- The least power of two. -/
def leastExponent : Int :=
  -1074

/-- The greatest power of two of a number with a full significand. -/
def greatestExponent : Int :=
  971

/-- Digits of a full significand in base two. -/
def precision : Nat :=
  53

/-- Zero with a sign. -/
def zero (negative : Bool) : Binary64 :=
  .finite negative 0 leastExponent

/-- Equality of numbers: the two zeros are equal, and so is `nan` to itself. -/
def same : Binary64 → Binary64 → Bool
  | .finite s m e, .finite s' m' e' =>
    (m == 0 && m' == 0) || (s == s' && m == m' && e == e')
  | .infinite s, .infinite s' => s == s'
  | .nan, .nan => true
  | _, _ => false

/-- The quotient rounded to the nearest natural number, a half to the even one. -/
def divNearest (num den : Nat) : Nat :=
  let q := num / den
  let twice := 2 * (num % den)
  if den < twice || (twice == den && q % 2 == 1) then q + 1 else q

/-- A power of two on the side of a quotient where it is a natural number. -/
def shiftUp (num : Nat) (e : Int) : Nat :=
  num * Nat.pow 2 e.toNat

/-- The exponent `e` with `2 ^ e ≤ num / den < 2 ^ (e + 1)`, for a positive quotient. -/
def binaryOrder (num den : Nat) : Int :=
  let e := (num.log2 : Int) - (den.log2 : Int)
  if shiftUp den e ≤ shiftUp num (-e) then e else e - 1

/-- The number nearest to the positive quotient `num / den`. -/
def ofQuotient (negative : Bool) (num den : Nat) : Binary64 :=
  let e := max (binaryOrder num den - (precision - 1)) leastExponent
  let m := divNearest (shiftUp num (-e)) (shiftUp den e)
  let (m, e) := if m == Nat.pow 2 precision then (Nat.pow 2 (precision - 1), e + 1) else (m, e)
  if greatestExponent < e then .infinite negative else .finite negative m e

/-- The number nearest to `digits * 10 ^ exponent`. Exponents far outside the range are
settled without the power of ten. -/
def ofDecimal (negative : Bool) (digits : Nat) (exponent : Int) : Binary64 :=
  let order := ((Nat.toDigits 10 digits).length : Int) + exponent
  if digits == 0 || order < -330 then
    zero negative
  else if 310 < order then
    .infinite negative
  else
    ofQuotient negative (digits * Nat.pow 10 exponent.toNat) (Nat.pow 10 (-exponent).toNat)

end Binary64

end WorkflowLint
