import WorkflowLint.CommandLine.Options
import WorkflowLint.Text.Quoted

/-!
# Options in a log

Options in the notation of records: a name, then fields in braces, then parentheses around what a
value holds.
-/

namespace WorkflowLint

namespace CommandLine

def record (name : String) (fields : List (String × String)) : String :=
  let field (f : String × String) : String := f.1 ++ ": " ++ f.2
  name ++ " \x7b " ++ ", ".intercalate (fields.map field) ++ " \x7d"

/-- A value that may be missing. -/
def optional : Option String → String
  | some s => "Some(" ++ s ++ ")"
  | none => "None"

/-- A location that may be missing. -/
def location (l : Option String) : String :=
  optional (l.map Text.quoted)

/-- A truth value. -/
def truth (b : Bool) : String :=
  if b then "true" else "false"

end CommandLine

open CommandLine

/-- The name of a form as a value. -/
def Format.describe : Format → String
  | .human => "Human"
  | .json => "Json"

def CheckOptions.describe (o : CheckOptions) : String :=
  record "CheckArgs"
    [("file", location o.file), ("policy", location o.policy), ("format", o.format.describe),
      ("strict", truth o.strict)]

def Command.describe : Command → String
  | .check o => "Check(" ++ o.describe ++ ")"
  | .rules => "Rules"

/-- What a command line says. -/
def Options.describe (o : Options) : String :=
  record "Cli"
    [("project", location o.project), ("no_color", truth o.noColor), ("debug", truth o.debug),
      ("command", optional (o.command.map Command.describe))]

end WorkflowLint
