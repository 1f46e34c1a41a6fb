/-!
# Options of the command line

A command line names a command, or none, and gives options. Some options are flags, which are on
or off; others have a value. Which of them a command line may give depends on where they stand:
the options of the project are known everywhere, those of a check only after its name.
-/

namespace WorkflowLint

/-- The form of a report. -/
inductive Format
  | human
  | json
  deriving DecidableEq, Repr

namespace Format

/-- The forms in order. -/
def all : List Format :=
  [.human, .json]

/-- The name of a form. -/
def name : Format → String
  | .human => "human"
  | .json => "json"

/-- The form with a name. -/
def ofName? (s : String) : Option Format :=
  all.find? fun f => f.name == s

end Format

/-- What is to be checked, and how. -/
structure CheckOptions where
  file : Option String
  policy : Option String
  format : Format
  /-- Warnings fail the run as well. -/
  strict : Bool
  deriving DecidableEq, Repr

/-- The options of a check that gives none. -/
def CheckOptions.standard : CheckOptions :=
  ⟨none, none, .human, false⟩

/-- What the program can be asked to do. -/
inductive Command
  | check (options : CheckOptions)
  | rules
  deriving DecidableEq, Repr

/-- What a command line says. -/
structure Options where
  project : Option String
  noColor : Bool
  debug : Bool
  command : Option Command
  deriving DecidableEq, Repr

/-! ## The options by name -/

namespace CommandLine

/-- Where an argument stands: before the name of a command, or after it. -/
inductive Level
  | top
  | check
  | rules
  deriving DecidableEq, Repr

/-- An option that is on or off. -/
inductive Flag
  | noColor
  | debug
  | strict
  deriving DecidableEq, Repr

/-- An option with a value. -/
inductive Setting
  | project
  | file
  | policy
  | format
  deriving DecidableEq, Repr

/-- What an option can be. -/
inductive Switch
  | flag (f : Flag)
  | setting (s : Setting)
  | help
  | version
  deriving DecidableEq, Repr

namespace Switch

/-- The name of an option. -/
def name : Switch → String
  | .flag .noColor => "no-color"
  | .flag .debug => "debug"
  | .flag .strict => "strict"
  | .setting .project => "project"
  | .setting .file => "file"
  | .setting .policy => "policy"
  | .setting .format => "format"
  | .help => "help"
  | .version => "version"

def letter? : Switch → Option Char
  | .setting .project => some 'p'
  | .setting .file => some 'f'
  | .help => some 'h'
  | .version => some 'V'
  | _ => none

/-- What stands for the value of an option. -/
def placeholder? : Switch → Option String
  | .setting .project => some "PROJECT"
  | .setting .file => some "FILE"
  | .setting .policy => some "POLICY"
  | .setting .format => some "FORMAT"
  | _ => none

/-- The option as it is written out. -/
def spelling (s : Switch) : String :=
  "--" ++ s.name ++
    match s.placeholder? with
    | some p => " <" ++ p ++ ">"
    | none => ""

end Switch

namespace Level

/-- The options that are known at a level, in the order in which help lists them. -/
def switches : Level → List Switch
  | .check =>
    [.setting .file, .setting .project, .flag .noColor, .setting .policy, .flag .debug,
      .setting .format, .flag .strict, .help, .version]
  | _ => [.setting .project, .flag .noColor, .flag .debug, .help, .version]

def ofName? (level : Level) (name : String) : Option Switch :=
  level.switches.find? fun s => s.name == name

def ofLetter? (level : Level) (letter : Char) : Option Switch :=
  level.switches.find? fun s => s.letter? == some letter

end Level

end CommandLine

end WorkflowLint
