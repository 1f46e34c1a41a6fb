/-!
# Values of the JSON notation

The values that a report needs, and their written form: one item or member a line, two blanks
for each level, and escapes only where a string cannot do without.
-/

namespace WorkflowLint

namespace Json

/-- A value. Numbers count something. -/
inductive Value
  | string (s : String)
  | number (n : Nat)
  | bool (b : Bool)
  | array (items : List Value)
  | object (members : List (String × Value))

/-! ## Strings -/

/-- The digit of sixteen for a number below sixteen. -/
def hexDigit (n : Nat) : Char :=
  if n < 10 then Char.ofNat (n + 48) else Char.ofNat (n + 87)

/-- How a character stands in a string: quotes and backslashes after a backslash, the control
characters by a letter if they have one and by their number if not, and all else as it is. -/
def escape (c : Char) : List Char :=
  match c with
  | '"' => ['\\', '"']
  | '\\' => ['\\', '\\']
  | '\x08' => ['\\', 'b']
  | '\t' => ['\\', 't']
  | '\n' => ['\\', 'n']
  | '\x0c' => ['\\', 'f']
  | '\r' => ['\\', 'r']
  | c =>
    if c.toNat < 32 then ['\\', 'u', '0', '0', hexDigit (c.toNat / 16), hexDigit (c.toNat % 16)]
    else [c]

/-- A string between quotes. -/
def quote (s : String) : List Char :=
  '"' :: s.toList.flatMap escape ++ ['"']

/-! ## Values -/

/-- A new line at a level. -/
def newline (level : Nat) : List Char :=
  '\n' :: List.replicate (2 * level) ' '

mutual

def Value.write (level : Nat) : Value → List Char
  | .string s => quote s
  | .number n => (toString n).toList
  | .bool b => (toString b).toList
  | .array [] => ['[', ']']
  | .array (v :: items) =>
    '[' :: newline (level + 1) ++ v.write (level + 1) ++ writeItems level items
  | .object [] => ['{', '}']
  | .object ((key, v) :: members) =>
    '{' :: newline (level + 1) ++ quote key ++ [':', ' '] ++ v.write (level + 1) ++
      writeMembers level members

/-- The items after the first one, up to the closing bracket. -/
def writeItems (level : Nat) : List Value → List Char
  | [] => newline level ++ [']']
  | v :: items => ',' :: newline (level + 1) ++ v.write (level + 1) ++ writeItems level items

/-- The members after the first one, up to the closing brace. -/
def writeMembers (level : Nat) : List (String × Value) → List Char
  | [] => newline level ++ ['}']
  | (key, v) :: members =>
    ',' :: newline (level + 1) ++ quote key ++ [':', ' '] ++ v.write (level + 1) ++
      writeMembers level members

end

def Value.text (v : Value) : String :=
  String.ofList (v.write 0)

end Json

end WorkflowLint
