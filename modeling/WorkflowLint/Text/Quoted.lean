import WorkflowLint.Text.Unprintable

/-!
# Quoted texts in messages

A text between double quotes. A quote, a backslash, a tab and the two common line breaks are
written with a backslash and a letter, the character zero as `\0`, and every other character
without a printed form of its own by its code point in hexadecimal.
-/

namespace WorkflowLint
namespace Text

/-- A number in hexadecimal with small letters. -/
def hexadecimal (n : Nat) : String :=
  String.ofList (Nat.toDigits 16 n)

/-- A character as it is written between quotes. -/
def quotedChar (c : Char) : String :=
  match c with
  | '\x00' => "\\0"
  | '\t' => "\\t"
  | '\n' => "\\n"
  | '\r' => "\\r"
  | '"' => "\\\""
  | '\\' => "\\\\"
  | c => if isUnprintable c then "\\u\x7b" ++ hexadecimal c.toNat ++ "\x7d" else c.toString

/-- A text between double quotes. -/
def quoted (s : String) : String :=
  "\"" ++ String.join (s.toList.map quotedChar) ++ "\""

end Text
end WorkflowLint
