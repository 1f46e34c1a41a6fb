import WorkflowLint.Json.Value

/-!
# Decode — the meaning of a text in the JSON notation

A decoder of the whole notation, and not only of the texts that a report can be: blanks may stand
between any two signs, a string may spell any character by its number, or two of them by a pair of
surrogates, and a number may have a fraction and a power of ten. Control characters in strings,
surrogates without a partner, leading zeros, signs in the wrong place and anything behind the value
are refused.

The decoder works through a text from the left: each function reads one thing and gives what is left
of the text.
-/

namespace WorkflowLint
namespace Json

/-! ## Data -/

/-- A number as it is written: a whole number times a power of ten. -/
structure Scaled where
  mantissa : Int
  exponent : Int
  deriving DecidableEq, Repr

/-- What a text in the notation stands for. The members of an object keep their order, and a
key may come twice. -/
inductive Datum
  | null
  | bool (b : Bool)
  | number (x : Scaled)
  | string (s : String)
  | array (items : List Datum)
  | object (members : List (String × Datum))

/-- A natural number, written without a fraction and without a power of ten. -/
def Datum.count (n : Nat) : Datum :=
  .number ⟨n, 0⟩

/-! ## Blanks -/

def isSpace (c : Char) : Bool :=
  c == ' ' || c == '\t' || c == '\n' || c == '\r'

/-- The text behind the blanks at its beginning. -/
def skipSpace (text : List Char) : List Char :=
  text.dropWhile isSpace

/-! ## Strings -/

/-- The value of a digit of sixteen, in letters of either case. -/
def hexValue? (c : Char) : Option Nat :=
  if c.isDigit then some (c.toNat - 48)
  else if 'a' ≤ c ∧ c ≤ 'f' then some (c.toNat - 87)
  else if 'A' ≤ c ∧ c ≤ 'F' then some (c.toNat - 55)
  else none

/-- The number that four digits of sixteen spell. -/
def readUnit : List Char → Option (Nat × List Char)
  | a :: b :: c :: d :: rest => do
    let a ← hexValue? a
    let b ← hexValue? b
    let c ← hexValue? c
    let d ← hexValue? d
    return (((a * 16 + b) * 16 + c) * 16 + d, rest)
  | _ => none

/-- The first half of a pair of surrogates. -/
def isHigh (unit : Nat) : Bool :=
  0xD800 ≤ unit && unit < 0xDC00

/-- The second half of a pair of surrogates. -/
def isLow (unit : Nat) : Bool :=
  0xDC00 ≤ unit && unit < 0xE000

/-- The character of a pair of surrogates. -/
def pair (high low : Nat) : Char :=
  Char.ofNat (0x10000 + (high - 0xD800) * 0x400 + (low - 0xDC00))

/-- The character that a sign after a backslash stands for. -/
def unescape? : Char → Option Char
  | '"' => some '"'
  | '\\' => some '\\'
  | '/' => some '/'
  | 'b' => some '\x08'
  | 'f' => some '\x0c'
  | 'n' => some '\n'
  | 'r' => some '\r'
  | 't' => some '\t'
  | _ => none

/-- The character that is spelled behind a backslash. -/
def readEscape : List Char → Option (Char × List Char)
  | 'u' :: rest => do
    let (unit, rest) ← readUnit rest
    if isHigh unit then
      -- the other half must follow at once
      match rest with
      | '\\' :: 'u' :: rest =>
        let (low, rest) ← readUnit rest
        if isLow low then return (pair unit low, rest) else none
      | _ => none
    else if isLow unit then none
    else return (Char.ofNat unit, rest)
  | c :: rest => (unescape? c).map fun x => (x, rest)
  | [] => none

/-- A character of a string, spelled or as it is. -/
def readChar : List Char → Option (Char × List Char)
  | '\\' :: rest => readEscape rest
  | c :: rest => if c.toNat < 32 then none else some (c, rest)
  | [] => none

/-- The characters of a string up to its closing quote, in at most so many steps. -/
def readString : Nat → List Char → Option (List Char × List Char)
  | 0, _ => none
  | _ + 1, '"' :: rest => some ([], rest)
  | n + 1, text => do
    let (c, rest) ← readChar text
    let (cs, rest) ← readString n rest
    return (c :: cs, rest)

example : readString 9 "\\u00E9\\ud83d\\ude00\\/ \" \"".toList =
    some ([Char.ofNat 0xE9, Char.ofNat 0x1F600, '/', ' '], " \"".toList) := by
  decide +kernel

/-! ## Numbers -/

/-- The digits at the beginning of a text, if there are any. -/
def readDigits (text : List Char) : Option (List Char × List Char) :=
  match text.takeWhile Char.isDigit with
  | [] => none
  | digits => some (digits, text.dropWhile Char.isDigit)

/-- The digits of a whole number. After a zero in front there are no more. -/
def readWhole : List Char → Option (List Char × List Char)
  | '0' :: rest => some (['0'], rest)
  | text => readDigits text

/-- The digits of a fraction, if there is one. -/
def readFraction : List Char → Option (List Char × List Char)
  | '.' :: rest => readDigits rest
  | text => some ([], text)

/-- The number that digits spell, with its sign. -/
def signed (negative : Bool) (digits : List Char) : Int :=
  let n := Nat.ofDigitChars 10 digits 0
  if negative then -n else n

/-- A power of ten, if there is one. -/
def readExponent : List Char → Option (Int × List Char)
  | e :: rest =>
    if e = 'e' ∨ e = 'E' then
      match rest with
      | '+' :: rest => (readDigits rest).map fun r => (signed false r.1, r.2)
      | '-' :: rest => (readDigits rest).map fun r => (signed true r.1, r.2)
      | rest => (readDigits rest).map fun r => (signed false r.1, r.2)
    else some (0, e :: rest)
  | [] => some (0, [])

/-- A number behind its sign. -/
def readMagnitude (negative : Bool) (text : List Char) : Option (Scaled × List Char) := do
  let (whole, text) ← readWhole text
  let (fraction, text) ← readFraction text
  let (exponent, text) ← readExponent text
  return (⟨signed negative (whole ++ fraction), exponent - fraction.length⟩, text)

def readNumber : List Char → Option (Scaled × List Char)
  | '-' :: rest => readMagnitude true rest
  | text => readMagnitude false text

example : readNumber "-12.50e+3,".toList = some (⟨-1250, 1⟩, [',']) := by
  decide +kernel

/-! ## Values -/

mutual

/-- A value, in at most so many steps. A step takes at least one character from the text, so a
text needs no more steps than it has characters. -/
def readValue : Nat → List Char → Option (Datum × List Char)
  | 0, _ => none
  | n + 1, text =>
    match skipSpace text with
    | 'n' :: 'u' :: 'l' :: 'l' :: rest => some (.null, rest)
    | 't' :: 'r' :: 'u' :: 'e' :: rest => some (.bool true, rest)
    | 'f' :: 'a' :: 'l' :: 's' :: 'e' :: rest => some (.bool false, rest)
    | '"' :: rest => (readString n rest).map fun r => (.string (String.ofList r.1), r.2)
    | '[' :: rest =>
      match skipSpace rest with
      | ']' :: rest => some (.array [], rest)
      | rest => do
        let (v, rest) ← readValue n rest
        let (items, rest) ← readItems n rest
        return (.array (v :: items), rest)
    | '{' :: rest =>
      match skipSpace rest with
      | '}' :: rest => some (.object [], rest)
      | rest => do
        let (member, rest) ← readMember n rest
        let (members, rest) ← readMembers n rest
        return (.object (member :: members), rest)
    | rest => (readNumber rest).map fun r => (.number r.1, r.2)

/-- The items after the first one, up to the closing bracket. -/
def readItems : Nat → List Char → Option (List Datum × List Char)
  | 0, _ => none
  | n + 1, text =>
    match skipSpace text with
    | ']' :: rest => some ([], rest)
    | ',' :: rest => do
      let (v, rest) ← readValue n rest
      let (items, rest) ← readItems n rest
      return (v :: items, rest)
    | _ => none

/-- A key and its value. -/
def readMember : Nat → List Char → Option ((String × Datum) × List Char)
  | 0, _ => none
  | n + 1, text =>
    match skipSpace text with
    | '"' :: rest => do
      let (key, rest) ← readString n rest
      match skipSpace rest with
      | ':' :: rest =>
        let (v, rest) ← readValue n rest
        return ((String.ofList key, v), rest)
      | _ => none
    | _ => none

/-- The members after the first one, up to the closing brace. -/
def readMembers : Nat → List Char → Option (List (String × Datum) × List Char)
  | 0, _ => none
  | n + 1, text =>
    match skipSpace text with
    | '}' :: rest => some ([], rest)
    | ',' :: rest => do
      let (member, rest) ← readMember n rest
      let (members, rest) ← readMembers n rest
      return (member :: members, rest)
    | _ => none

end

/-- The value that a text holds, with nothing but blanks around it. -/
def decode (s : String) : Option Datum :=
  match readValue s.toList.length s.toList with
  | some (v, rest) => if (skipSpace rest).isEmpty then some v else none
  | none => none

-- leading zeros and signs, trailing commas and texts, control characters and single surrogates
example : ["[01]", "[+1]", "[.5]", "[1,]", "[1] 2", "\"\t\"", "\"\\udc00\"", "\"\\ud83d\""].all
    (fun s => (decode s).isNone) = true := by
  decide +kernel

end Json
end WorkflowLint
