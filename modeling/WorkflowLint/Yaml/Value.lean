import WorkflowLint.Yaml.Number

/-!
# Values of a document

A value is a scalar, a sequence, a mapping or a value under a tag. The entries of a mapping
keep their order. As keys two values are the same if they hold the same data: the order of
the entries of a mapping does not count, and neither does the `!` before a tag's name.
-/

namespace WorkflowLint
namespace Yaml

/-- A value of a document. -/
inductive Value
  | null
  | bool (b : Bool)
  | number (n : Number)
  | string (s : String)
  | sequence (items : List Value)
  | mapping (entries : List (Value × Value))
  | tagged (tag : String) (value : Value)
  deriving Repr, Inhabited

namespace Value

/-- A tag's name without the mark that leads it; the tag `!` is its own name. -/
def tagName (tag : String) : String :=
  match tag.toList with
  | '!' :: c :: rest => String.ofList (c :: rest)
  | _ => tag

mutual

/-- Two values hold the same data. -/
def same : Value → Value → Bool
  | .null, .null => true
  | .bool a, .bool b => a == b
  | .number a, .number b => a.same b
  | .string a, .string b => a == b
  | .sequence as, .sequence bs => sameItems as bs
  | .mapping as, .mapping bs => as.length == bs.length && entriesAmong as bs
  | .tagged s a, .tagged t b => tagName s == tagName t && same a b
  | _, _ => false

/-- Two sequences hold the same data in the same order. -/
def sameItems : List Value → List Value → Bool
  | [], [] => true
  | a :: as, b :: bs => same a b && sameItems as bs
  | _, _ => false

/-- Every entry of the first mapping has its like in the second. -/
def entriesAmong : List (Value × Value) → List (Value × Value) → Bool
  | [], _ => true
  | (k, v) :: rest, bs => bs.any (fun e => same k e.1 && same v e.2) && entriesAmong rest bs

end

/-- The key among the entries that is the same as a given one. -/
def findKey? (key : Value) : List (Value × Value) → Option Value
  | [] => none
  | (k, _) :: rest => if same k key then some k else findKey? key rest

end Value

end Yaml
end WorkflowLint
