import WorkflowLint.CommandLine.Description
import WorkflowLint.Validation

/-!
# Events of a run

What a run says about itself. An event has a level, a topic by which it can be filtered, and a
text: what happened, then fields as a name and a value.
-/

namespace WorkflowLint

namespace Log

/-- How important an event is. -/
inductive Level
  | error
  | warn
  | info
  | debug
  | trace
  deriving DecidableEq, Repr

namespace Level

def name : Level → String
  | .error => "ERROR"
  | .warn => "WARN"
  | .info => "INFO"
  | .debug => "DEBUG"
  | .trace => "TRACE"

/-- How much has to be asked for to see a level. -/
def detail : Level → Nat
  | .error => 1
  | .warn => 2
  | .info => 3
  | .debug => 4
  | .trace => 5

end Level

/-- Something that happened in a run. -/
inductive Event
  | started (options : Options)
  | loadingPolicy (location : String)
  | validating (location : String)
  | triggerRenamed
  | rejected (cause : WorkflowError)
  | found (d : Diagnostic)
  | ruleFinished (rule : String) (diagnostics : Nat)
  | finished (errors warnings : Nat)

namespace Event

def level : Event → Level
  | .validating _ => .info
  | _ => .debug

def topic : Event → String
  | .started _ => "flowgate"
  | .loadingPolicy _ | .validating _ | .finished .. => "flowgate::cli::commands::check"
  | .triggerRenamed => "flowgate::lint::document"
  | .rejected _ => "flowgate::lint::validate"
  | .found _ => "flowgate::lint::diagnostic"
  | .ruleFinished .. => "flowgate::lint::registry"

/-- What happened. -/
def what : Event → String
  | .started options => "flowgate starting with args: " ++ options.describe
  | .loadingPolicy location => "loading policy from " ++ location
  | .validating location => "validating " ++ location
  | .triggerRenamed => "normalized boolean trigger key to '" ++ Entries.triggerKey ++ "'"
  | .rejected cause => "workflow rejected before rules: " ++ cause.message
  | .found d => d.message
  | .ruleFinished .. => "rule finished"
  | .finished .. => "validation finished"

def fields : Event → List (String × String)
  | .found d => [("rule", d.rule), ("severity", d.severity.name)]
  | .ruleFinished rule diagnostics => [("rule", rule), ("diagnostics", toString diagnostics)]
  | .finished errors warnings => [("errors", toString errors), ("warnings", toString warnings)]
  | _ => []

/-- A character of what happened. The ones that a terminal obeys are written by their numbers. -/
def harmless (c : Char) : String :=
  match c with
  | '\x1b' => "\\x1b"
  | '\x07' => "\\x07"
  | '\x08' => "\\x08"
  | '\x0c' => "\\x0c"
  | '\x7f' => "\\x7f"
  | c =>
    if 0x80 ≤ c.toNat && c.toNat ≤ 0x9f then
      "\\u\x7b" ++ Text.hexadecimal c.toNat ++ "\x7d"
    else c.toString

def text (e : Event) : String :=
  e.level.name ++ " " ++ String.join (e.what.toList.map harmless) ++
    String.join (e.fields.map fun f => " " ++ f.1 ++ "=" ++ f.2)

end Event

/-! ## Events of a validation -/

/-- The events of a rule that ran. -/
def ofResult (result : String × Findings) : List Event :=
  result.2.map .found ++ [.ruleFinished result.1 result.2.length]

def ofValidation (v : Validation) : List Event :=
  match v with
  | .unread .. => v.findings.map .found
  | .rejected cause => .rejected cause :: v.findings.map .found
  | .completed renamed results =>
    (if renamed then [.triggerRenamed] else []) ++ results.flatMap ofResult

end Log

end WorkflowLint
