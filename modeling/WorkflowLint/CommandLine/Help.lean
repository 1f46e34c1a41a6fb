import WorkflowLint.CommandLine.Options
import WorkflowLint.Text.Column

/-!
# Help

The pages of help. A page says what a command is for, how it is called, and lists commands and
options in columns: what is to be written, padded to the width of the longest, and what it means.
-/

namespace WorkflowLint

namespace CommandLine

def programName : String :=
  "flowgate"

def programVersion : String :=
  "0.1.0"

/-- What there can be help about: a level, or help itself. -/
inductive Page
  | level (l : Level)
  | help
  deriving DecidableEq, Repr

namespace Level

/-- The name of a command. -/
def name? : Level → Option String
  | .top => none
  | .check => some "check"
  | .rules => some "rules"

/-- What a command is for. -/
def purpose : Level → String
  | .top => "Static policy validation for the smoke-test CI workflow"
  | .check => "Validate the workflow (default if no command specified)"
  | .rules => "List the validation rules in execution order"

/-- The line that names the version. -/
def version (level : Level) : String :=
  programName ++ ((level.name?.map ("-" ++ ·)).getD "") ++ " " ++ programVersion ++ "\n"

end Level

namespace Page

/-- What help about help is for. -/
def helpPurpose : String :=
  "Print this message or the help of the given subcommand(s)"

/-- What a switch does. -/
def meaning : Switch → String
  | .flag .noColor => "Disable colored output"
  | .flag .debug => "Enable debug logging"
  | .flag .strict => "Treat warnings as errors"
  | .setting .project => "Path to project root (overrides current directory)"
  | .setting .file => "Workflow file (overrides .github/workflows/smoke-test.yml)"
  | .setting .policy => "YAML file overriding the expected values"
  | .setting .format => "Output format [default: human] [possible values: human, json]"
  | .help => "Print help"
  | .version => "Print version"

/-- A switch with its letter, or with blanks in the place of one. -/
def spelling (s : Switch) : String :=
  (match s.letter? with
    | some c => "-" ++ c.toString ++ ", "
    | none => "    ") ++ s.spelling

/-- The lines of a table with two columns. -/
def table (rows : List (String × String)) : String :=
  let width := Text.widest (rows.map Prod.fst)
  String.join (rows.map fun row => "  " ++ Text.padRight width row.1 ++ "  " ++ row.2 ++ "\n")

/-- The lines of the commands. -/
def commands : String :=
  "\nCommands:\n" ++
    table
      [("check", Level.check.purpose), ("rules", Level.rules.purpose), ("help", helpPurpose)]

/-- The lines of the options of a level. -/
def options (level : Level) : String :=
  "\nOptions:\n" ++ table (level.switches.map fun s => (spelling s, meaning s))

/-- The first lines of a page: what a command is for, and how it is called. -/
def heading (purpose call : String) : String :=
  purpose ++ "\n\nUsage: " ++ programName ++ " " ++ call ++ "\n"

def text : Page → String
  | .level .top => heading Level.top.purpose "[OPTIONS] [COMMAND]" ++ commands ++ options .top
  | .level .check => heading Level.check.purpose "check [OPTIONS]" ++ options .check
  | .level .rules => heading Level.rules.purpose "rules [OPTIONS]" ++ options .rules
  | .help =>
    heading helpPurpose "help [COMMAND]..." ++ "\nArguments:\n" ++
      table [("[COMMAND]...", "Print help for the subcommand(s)")]

end Page

end CommandLine

end WorkflowLint
