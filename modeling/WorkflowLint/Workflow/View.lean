import WorkflowLint.Yaml.Value

/-!
# Views: what rules see of a value

A view looks through tags, and a key that is missing gives the view `absent`, so rules ask
without having to expect failure. Every view has a text, in which rules look for names.
-/

namespace WorkflowLint

open Yaml (Value Number)

/-- What a rule sees at some place of a document. -/
inductive View
  | mapping (entries : List (Value × Value))
  | sequence (items : List Value)
  | string (s : String)
  | number (n : Number)
  | bool (b : Bool)
  | null
  | absent
  deriving Repr, Inhabited

namespace View

/-- The view of a value. -/
def ofValue : Value → View
  | .mapping entries => .mapping entries
  | .sequence items => .sequence items
  | .string s => .string s
  | .number n => .number n
  | .bool b => .bool b
  | .null => .null
  | .tagged _ v => ofValue v

/-- The value of the first entry with a string as key. -/
def lookup (key : String) : List (Value × Value) → Option Value
  | [] => none
  | (.string k, v) :: rest => if k == key then some v else lookup key rest
  | _ :: rest => lookup key rest

/-- The value under a key of a mapping. -/
def get (v : View) (key : String) : View :=
  match v with
  | .mapping entries =>
    match lookup key entries with
    | some value => ofValue value
    | none => .absent
  | _ => .absent

/-- Nothing is there. -/
def isAbsent : View → Bool
  | .absent => true
  | _ => false

/-- A null that is written down. -/
def isNull : View → Bool
  | .null => true
  | _ => false

/-- A mapping with the key. -/
def contains (v : View) (key : String) : Bool :=
  !(v.get key).isAbsent

def string? : View → Option String
  | .string s => some s
  | _ => none

/-- The items of a sequence; nothing else has any. -/
def items : View → List View
  | .sequence items => items.map ofValue
  | _ => []

/-- A mapping with at least one entry. -/
def isFilledMapping : View → Bool
  | .mapping entries => !entries.isEmpty
  | _ => false

/-- A short name of the type. -/
def kind : View → String
  | .mapping _ => "mapping"
  | .sequence _ => "sequence"
  | .string _ => "string"
  | .number _ => "number"
  | .bool _ => "boolean"
  | .null => "null"
  | .absent => "absent"

/-! ## Texts -/

mutual

/-- The text of a value: strings as they are, collections with their parts between brackets
or braces, and null as nothing. -/
def textOfValue : Value → String
  | .mapping entries => "\x7b" ++ String.intercalate ", " (textsOfEntries entries) ++ "\x7d"
  | .sequence items => "[" ++ String.intercalate ", " (textsOfItems items) ++ "]"
  | .string s => s
  | .number n => n.text
  | .bool b => toString b
  | .null => ""
  | .tagged _ v => textOfValue v

def textsOfItems : List Value → List String
  | [] => []
  | v :: rest => textOfValue v :: textsOfItems rest

/-- The texts of entries, key and value. -/
def textsOfEntries : List (Value × Value) → List String
  | [] => []
  | (k, v) :: rest => (textOfValue k ++ ": " ++ textOfValue v) :: textsOfEntries rest

end

/-- The text of a view; what is absent has none. -/
def text : View → String
  | .mapping entries => textOfValue (.mapping entries)
  | .sequence items => textOfValue (.sequence items)
  | .string s => s
  | .number n => n.text
  | .bool b => toString b
  | .null => ""
  | .absent => ""

/-- The texts of the items of a sequence; of a scalar other than null its own text. -/
def strings : View → List String
  | .sequence items => textsOfItems items
  | .mapping _ | .null | .absent => []
  | v => [v.text]

end View

end WorkflowLint
