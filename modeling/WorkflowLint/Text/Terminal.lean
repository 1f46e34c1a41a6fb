/-!
# Texts without what a terminal obeys

Control characters are left out, and so are escape sequences: one that an escape character and a
letter make, one with parameters after a bracket, and one that holds a text up to its end. Blanks
and line breaks stay, and cut a sequence off that they stand in, unless it holds a text.
-/

namespace WorkflowLint
namespace Text

/-- Where a character stands. -/
inductive Position
  | outside
  /-- After an escape character; some characters may come in between. -/
  | escaped (fresh : Bool)
  /-- Among the parameters of a sequence. -/
  | parameters
  /-- In the text of a sequence; one sort also ends with the bell. -/
  | held (endsWithBell : Bool)
  deriving DecidableEq, Repr

/-- A blank or a line break among the control characters. -/
def isControlBlank (c : Char) : Bool :=
  c == '\t' || c == '\n' || c == '\x0c' || c == '\r'

def isControl (c : Char) : Bool :=
  c.toNat < 0x20 || c == '\x7f'

/-- The position after a character that is left out. -/
def Position.after (p : Position) (c : Char) : Position :=
  if c == '\x1b' then .escaped true
  -- these two cancel any sequence
  else if c == '\x18' || c == '\x1a' then .outside
  else
    match p with
    | .outside => .outside
    | .escaped fresh =>
      if isControl c then .escaped fresh
      else if fresh && c == '[' then .parameters
      else if fresh && c == ']' then .held true
      else if fresh && "PX^_".toList.contains c then .held false
      else if c.toNat < 0x30 then .escaped false
      else .outside
    | .parameters => if 0x40 ≤ c.toNat && c.toNat ≤ 0x7e then .outside else .parameters
    | .held endsWithBell => if endsWithBell && c == '\x07' then .outside else .held endsWithBell

/-- The character stays. -/
def Position.keeps (p : Position) (c : Char) : Bool :=
  match p with
  | .outside => !isControl c || isControlBlank c
  | .held _ => false
  | _ => isControlBlank c

/-- The characters that stay, from a position on. -/
def visibleFrom (p : Position) : List Char → List Char
  | [] => []
  | c :: rest => if p.keeps c then c :: visibleFrom .outside rest else visibleFrom (p.after c) rest

/-- The text without what a terminal obeys. -/
def visible (s : String) : String :=
  String.ofList (visibleFrom .outside s.toList)

end Text
end WorkflowLint
