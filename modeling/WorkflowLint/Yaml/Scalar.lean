import WorkflowLint.Yaml.Token

/-!
# What a scalar's text stands for

A plain scalar may stand for null, a truth value, an integer or a floating-point number;
otherwise it is a string. A standard tag asks for one of these, whatever the style of the
scalar, and text that does not spell it is refused. Integers are decimal, or hexadecimal, octal
or binary after `0x`, `0o` and `0b`. Digits after a leading zero make a string. Integers beyond
64 bits are told apart: they are read, and then refused where values are wanted.
-/

namespace WorkflowLint
namespace Yaml
namespace Scalar

/-! ## Null and truth values -/

/-- A spelling of null. -/
def isNull (text : String) : Bool :=
  text == "null" || text == "Null" || text == "NULL" || text == "~"

/-- The truth value that a text spells. -/
def bool? (text : String) : Option Bool :=
  if text == "true" || text == "True" || text == "TRUE" then some true
  else if text == "false" || text == "False" || text == "FALSE" then some false
  else none

/-! ## Integers -/

/-- The value of a digit in a base up to sixteen. -/
def digit? (base : Nat) (c : Char) : Option Nat :=
  let value :=
    if '0' ≤ c && c ≤ '9' then c.toNat - '0'.toNat
    else if 'a' ≤ c && c ≤ 'f' then c.toNat - 'a'.toNat + 10
    else if 'A' ≤ c && c ≤ 'F' then c.toNat - 'A'.toNat + 10
    else 16
  if value < base then some value else none

/-- The number that digits spell after a value. -/
def natFrom? (base value : Nat) : List Char → Option Nat
  | [] => some value
  | c :: rest =>
    match digit? base c with
    | some d => natFrom? base (value * base + d) rest
    | none => none

/-- The number that digits spell; there must be at least one. -/
def nat? (base : Nat) (digits : List Char) : Option Nat :=
  if digits.isEmpty then none else natFrom? base 0 digits

/-- Digits behind a leading zero, with or without a sign. -/
def isZeroPadded (text : List Char) : Bool :=
  let digits := match text with
    | '-' :: rest => rest
    | '+' :: rest => rest
    | _ => text
  match digits with
  | '0' :: c :: rest => (c :: rest).all Char.isDigit
  | _ => false

/-- The number behind a sign, in the base that its lead tells. -/
def magnitude? (text unsigned : List Char) : Option Nat :=
  let decimal := if isZeroPadded text then none else nat? 10 unsigned
  match unsigned with
  | '0' :: 'x' :: rest => nat? 16 rest
  | '0' :: 'o' :: rest => nat? 8 rest
  | '0' :: 'b' :: rest => nat? 2 rest
  | _ => decimal

/-- Bits of the widest integer that is told apart from other numbers. -/
def widest : Nat :=
  128

/-- The integer that a text spells, if it fits the widest integers. -/
def integer? (text : String) : Option Int :=
  match text.toList with
  | '-' :: rest =>
    match magnitude? ('-' :: rest) rest with
    -- there is one integer more below zero than above
    | some n => if n ≤ Nat.pow 2 (widest - 1) then some (-(n : Int)) else none
    | none => none
  | '+' :: rest => natural? ('+' :: rest) rest
  | cs => natural? cs cs
where
  natural? (text unsigned : List Char) : Option Int :=
    match magnitude? text unsigned with
    | some n => if n < Nat.pow 2 widest then some (n : Int) else none
    | none => none

/-- An integer of 64 bits, with or without a sign: it is at least `-2 ^ 63` and below `2 ^ 64`. -/
def isNarrow (n : Int) : Bool :=
  -9223372036854775808 ≤ n && n < 18446744073709551616

/-! ## Floating-point numbers -/

/-- An exponent behind its letter: a sign or none, and digits. -/
def exponent? : List Char → Option Int
  | '-' :: rest => (nat? 10 rest).map fun n => -(n : Int)
  | '+' :: rest => (nat? 10 rest).map fun n => (n : Int)
  | rest => (nat? 10 rest).map fun n => (n : Int)

/-- The number spelled by digits with or without a point and an exponent; a digit must stand
on one side of the point. -/
def unsignedReal? (negative : Bool) (text : List Char) : Option Binary64 :=
  let whole := text.takeWhile Char.isDigit
  let rest := text.dropWhile Char.isDigit
  let (part, rest) := match rest with
    | '.' :: rest => (rest.takeWhile Char.isDigit, rest.dropWhile Char.isDigit)
    | _ => ([], rest)
  match nat? 10 (whole ++ part) with
  | none => none
  | some digits =>
    let exponent := match rest with
      | [] => some 0
      | c :: rest => if c == 'e' || c == 'E' then exponent? rest else none
    exponent.map fun e => Binary64.ofDecimal negative digits (e - part.length)

/-- A number that is neither infinite nor missing. -/
def finite? : Binary64 → Option Binary64
  | .finite s m e => some (.finite s m e)
  | _ => none

/-- The floating-point number that a text spells. A numeral too large for any is none. -/
def real? (text : String) : Option Binary64 :=
  if text == ".nan" || text == ".NaN" || text == ".NAN" then some .nan
  else
    match text.toList with
    | '-' :: rest =>
      if isInfinity rest then some (.infinite true) else (unsignedReal? true rest).bind finite?
    | '+' :: rest =>
      if isInfinity rest then some (.infinite false) else (unsignedReal? false rest).bind finite?
    | cs => if isInfinity cs then some (.infinite false) else (unsignedReal? false cs).bind finite?
where
  isInfinity (text : List Char) : Bool :=
    let t := String.ofList text
    t == ".inf" || t == ".Inf" || t == ".INF"

/-! ## Plain scalars -/

/-- What a plain scalar stands for. -/
inductive Meaning
  | null
  | bool (b : Bool)
  | integer (n : Int)
  | real (x : Binary64)
  | string
  deriving DecidableEq, Repr

/-- The meaning of a plain scalar. -/
def meaning (text : String) : Meaning :=
  if text == "" || isNull text then .null
  else
    match bool? text with
    | some b => .bool b
    | none =>
      match integer? text with
      | some n => .integer n
      | none =>
        -- digits after a leading zero are a string, though they would spell a number
        match if isZeroPadded text.toList then none else real? text with
        | some x => .real x
        | none => .string

/-! ## Tags -/

/-- The name of a tag that the document's author defined: what follows its `!`, or the lone
`!` itself. -/
def localTag? : Option Octets → Option String
  | some (33 :: c :: rest) => Octets.toString? (c :: rest)
  | some [33] => some "!"
  | _ => none

def isStandard (name : String) (tag : Octets) : Bool :=
  tag == Octets.ofString ("tag:yaml.org,2002:" ++ name)

/-- The meaning of a scalar without a tag, or inside a tag that has been dealt with. -/
def untagged (style : ScalarStyle) (text : String) : Meaning :=
  if style == .plain then meaning text else .string

/-- What a standard tag asks for, or else a refusal. -/
def demand (found : Option Meaning) (text wanted : String) : Except ContentError Meaning :=
  match found with
  | some m => .ok m
  | none => .error (.invalidValue text wanted)

def resolve (tag : Option Octets) (style : ScalarStyle) (text : String) :
    Except ContentError Meaning :=
  match tag with
  | none => .ok (untagged style text)
  | some t =>
    if isStandard "bool" t then demand ((bool? text).map .bool) text "a boolean"
    else if isStandard "int" t then demand ((integer? text).map .integer) text "an integer"
    else if isStandard "float" t then demand ((real? text).map .real) text "a float"
    else if isStandard "null" t then demand (if isNull text then some .null else none) text "null"
    -- octet 33 is `!`: the tag is of the author's own making
    else if t.head? == some 33 then .ok (untagged style text)
    else .ok .string

end Scalar
end Yaml
end WorkflowLint
