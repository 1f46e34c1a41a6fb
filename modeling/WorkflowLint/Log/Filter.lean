import WorkflowLint.Log.Event
import WorkflowLint.Text.Search
import WorkflowLint.Text.Word

/-!
# Filters of a log

A filter says for topics how much is shown of them. Of the directives for an event, the one with
the longest topic decides, and of two with the same topic the later one. Without a directive for
it, an event is not shown.
-/

namespace WorkflowLint

namespace Log

/-- How much is shown of the topics that start with a text. -/
structure Directive where
  topic : String
  detail : Nat
  deriving DecidableEq, Repr

abbrev Filter := List Directive

namespace Filter

/-- The names of the amounts of detail, in order. -/
def detailNames : List String :=
  ["off", "error", "warn", "info", "debug", "trace"]

/-- The amount of detail that a text stands for: a name in any case, or a digit. No text at all
asks for errors. -/
def detail? (s : String) : Option Nat :=
  if s == "" then some 1
  else if s.toList.all Char.isDigit then
    s.toNat?.filter (· < detailNames.length)
  else detailNames.findIdx? (· == Text.lowerLetters s)

/-- A directive can start with a character. -/
def isStart (c : Char) : Bool :=
  Text.isWord c || c == '-' || c == ':' || c == '['

/-- The directive that a text stands for: an amount of detail for all topics, or a topic with or
without one. One that speaks of spans shows no event, and is no directive here. -/
def directive? (s : String) : Option (Option Directive) :=
  if !s.toList.head?.any isStart then none
  else if s.toList.contains '[' then some none
  else
    let topic := s.toList.takeWhile (· != '=')
    match s.toList.dropWhile (· != '=') with
    | _ :: level => (detail? (String.ofList level)).map fun n => some ⟨String.ofList topic, n⟩
    | [] =>
      match detail? s with
      | some n => some (some ⟨"", n⟩)
      -- a topic alone is shown in full
      | none => some (some ⟨s, 5⟩)

/-- The filter that a text stands for, if each of its parts is a directive. -/
def ofString? (s : String) : Option Filter := do
  let directives ← ((s.splitOn ",").filter (· != "")).mapM directive?
  return directives.filterMap id

/-- The filter that shows all that helps to find faults. -/
def debugging : Filter :=
  [⟨"flowgate", 4⟩]

/-- The filter that holds where none is given: only warnings and errors. -/
def standard : Filter :=
  [⟨"flowgate", 2⟩]

/-- The filter of a run: asked for by an option, or else given by a text, or else the standard
one. -/
def choose (debug : Bool) (given : Option String) : Filter :=
  if debug then debugging else (given.bind ofString?).getD standard

/-- The later of two directives, unless the earlier one has a longer topic. -/
def closer (a b : Directive) : Directive :=
  if a.topic.length > b.topic.length then a else b

/-- How much is shown of a topic. -/
def detailOf (filter : Filter) (topic : String) : Nat :=
  match filter.filter fun d => d.topic.isPrefixOf topic with
  | [] => 0
  | first :: rest => (rest.foldl closer first).detail

/-- An event is shown. -/
def shows (filter : Filter) (e : Event) : Bool :=
  e.level.detail ≤ filter.detailOf e.topic

end Filter

/-- The texts of the events that a filter shows. -/
def texts (filter : Filter) (events : List Event) : List String :=
  (events.filter filter.shows).map Event.text

end Log

end WorkflowLint
