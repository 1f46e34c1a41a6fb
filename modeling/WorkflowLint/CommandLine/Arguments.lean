import WorkflowLint.CommandLine.Help
import WorkflowLint.Text.Terminal

/-!
# Reading arguments

The arguments are read from left to right. An option with a value takes it from the same
argument, or else from the next one, whatever command that would name; so its value is looked at
only when the next option comes or the arguments end. An argument that nothing knows is refused
before any value that still waits to be looked at. The options after the name of a command are
read and judged before the values that wait in front of it, and win over options of the same name
there.
-/

namespace WorkflowLint

namespace CommandLine

/-! ## Why arguments are refused -/

/-- Why arguments are refused. -/
inductive UsageError
  | unknownArgument (argument : String)
  | unknownCommand (name : String)
  | missingValue (option : Switch)
  | invalidValue (option : Switch) (value : String)
  | repeatedOption (option : Switch)
  /-- A switch without a value was given one. -/
  | unwantedValue (option : Switch) (value : String)
  deriving DecidableEq, Repr

namespace UsageError

/-- What is wrong. -/
def reason : UsageError → String
  | .unknownArgument argument => "unexpected argument '" ++ argument ++ "' found"
  | .unknownCommand name => "unrecognized subcommand '" ++ name ++ "'"
  | .missingValue option =>
    "a value is required for '" ++ option.spelling ++ "' but none was supplied"
  | .invalidValue option value => "invalid value '" ++ value ++ "' for '" ++ option.spelling ++ "'"
  | .repeatedOption option =>
    "the argument '" ++ option.spelling ++ "' cannot be used multiple times"
  | .unwantedValue option value =>
    "unexpected value '" ++ value ++ "' for '" ++ option.spelling ++
      "' found; no more were expected"

/-- The wording of the error, on one line: what a terminal obeys is left out, and so is what
follows a line feed. -/
def message (e : UsageError) : String :=
  String.ofList ((Text.visible ("error: " ++ e.reason)).toList.takeWhile (· != '\n'))

end UsageError

/-- Why reading ends before the arguments do. -/
inductive Stop
  | misused (e : UsageError)
  | help (page : Page)
  | version (level : Level)
  deriving DecidableEq, Repr

/-! ## Options of one level -/

/-- The options that were given at one level. -/
structure Given where
  project : Option String
  file : Option String
  policy : Option String
  format : Option Format
  noColor : Bool
  debug : Bool
  strict : Bool
  deriving DecidableEq, Repr

namespace Given

/-- No options. -/
def none : Given :=
  ⟨.none, .none, .none, .none, false, false, false⟩

def has (g : Given) : Flag → Bool
  | .noColor => g.noColor
  | .debug => g.debug
  | .strict => g.strict

/-- An option has its value. -/
def isSet (g : Given) : Setting → Bool
  | .project => g.project.isSome
  | .file => g.file.isSome
  | .policy => g.policy.isSome
  | .format => g.format.isSome

/-- Turns a flag on, which can be done once. -/
def turnOn (g : Given) (f : Flag) : Except Stop Given :=
  if g.has f then .error (.misused (.repeatedOption (.flag f)))
  else
    match f with
    | .noColor => .ok { g with noColor := true }
    | .debug => .ok { g with debug := true }
    | .strict => .ok { g with strict := true }

/-- Gives an option its value, which can be done once. No value is empty. -/
def set (g : Given) (s : Setting) (value : String) : Except Stop Given :=
  if g.isSet s then .error (.misused (.repeatedOption (.setting s)))
  else if value == "" then .error (.misused (.missingValue (.setting s)))
  else
    match s with
    | .project => .ok { g with project := some value }
    | .file => .ok { g with file := some value }
    | .policy => .ok { g with policy := some value }
    | .format =>
      match Format.ofName? value with
      | some f => .ok { g with format := some f }
      | .none => .error (.misused (.invalidValue (.setting s) value))

end Given

/-- How far reading has come at one level. -/
structure Progress where
  given : Given
  /-- The option whose value is still to be looked at, and the value if it is there. -/
  waiting : Option (Setting × Option String)

namespace Progress

/-- Before the first argument of a level. -/
def start : Progress :=
  ⟨.none, .none⟩

/-- An option was named and has no value yet. -/
def wantsValue (p : Progress) : Bool :=
  match p.waiting with
  | some (_, .none) => true
  | _ => false

/-- Looks at the value that waits. -/
def settle (p : Progress) : Except Stop Given :=
  match p.waiting with
  | .none => .ok p.given
  | some (s, .none) => .error (.misused (.missingValue (.setting s)))
  | some (s, some value) => p.given.set s value

/-- Names a switch without a value. -/
def name (p : Progress) (level : Level) (s : Switch) : Except Stop Progress := do
  let given ← p.settle
  match s with
  | .flag f => return ⟨← given.turnOn f, .none⟩
  | .setting s => return ⟨given, some (s, .none)⟩
  | .help => .error (.help (.level level))
  | .version => .error (.version level)

/-- Names an option and gives its value. -/
def assign (p : Progress) (s : Setting) (value : String) : Except Stop Progress := do
  return ⟨← (← p.settle).set s value, .none⟩

/-- Reads an option that is named by its name, with the value that follows an equals sign. -/
def readNamed (p : Progress) (level : Level) (name : String) (value : Option String) :
    Except Stop Progress :=
  match level.ofName? name, value with
  | .none, _ => .error (.misused (.unknownArgument ("--" ++ name)))
  | some s, .none => p.name level s
  | some (.setting s), some v => p.assign s v
  | some s, some v => .error (.misused (.unwantedValue s v))

/-- Reads the options that are named by letters. The rest of the argument after the letter of an
option with a value is this value, without an equals sign at its start. -/
def readLetters (p : Progress) (level : Level) : List Char → Except Stop Progress
  | [] => .ok p
  | c :: rest =>
    match level.ofLetter? c, rest with
    | .none, _ => .error (.misused (.unknownArgument ("-" ++ c.toString)))
    | some (.setting s), '=' :: value => p.assign s (String.ofList value)
    | some (.setting s), d :: value => p.assign s (String.ofList (d :: value))
    | some s, _ => do (← p.name level s).readLetters level rest

/-- The refusal of an argument that is neither an option nor a value nor the name of a command.
Where commands have names, it is taken for one. -/
def stray (level : Level) (argument : String) : UsageError :=
  match level with
  | .top => .unknownCommand argument
  | _ => .unknownArgument argument

/-- Reads one argument that does not name a command. -/
def read (p : Progress) (level : Level) (argument : String) : Except Stop Progress :=
  match argument.toList with
  | '-' :: '-' :: option =>
    p.readNamed level (String.ofList (option.takeWhile (· != '=')))
      (match option.dropWhile (· != '=') with
        | _ :: value => some (String.ofList value)
        | [] => .none)
  | '-' :: c :: letters => p.readLetters level (c :: letters)
  | _ =>
    match p.waiting with
    | some (s, .none) => .ok { p with waiting := some (s, some argument) }
    | _ => .error (.misused (stray level argument))

/-- The argument after which there are no options. -/
def separator : String :=
  "--"

/-- Reads the arguments of a command. No command has arguments other than options. -/
def readAll (p : Progress) (level : Level) : List String → Except Stop Given
  | [] => p.settle
  | argument :: rest =>
    if argument == separator then
      match rest with
      | [] => p.settle
      | stray :: _ => .error (.misused (.unknownArgument stray))
    else do (← p.read level argument).readAll level rest

end Progress

/-! ## Whole command lines -/

/-- The name of the command that prints help. -/
def helpName : String :=
  "help"

/-- The command with a name. -/
def levelOfName? (name : String) : Option Level :=
  [Level.check, Level.rules].find? fun l => l.name? == some name

/-- What help is asked for. -/
def helpPage : List String → Stop
  | [] => .help (.level .top)
  | name :: rest =>
    match levelOfName? name, rest with
    | some l, [] => .help (.level l)
    | some _, more :: _ => .misused (.unknownCommand more)
    | .none, [] => if name == helpName then .help .help else .misused (.unknownCommand name)
    | .none, more :: _ => .misused (.unknownCommand (if name == helpName then more else name))

/-- The refusal of an argument after the separator. The name of a command has no place there. -/
def strayAfterSeparator (argument : String) : UsageError :=
  if (levelOfName? argument).isSome || argument == helpName then .unknownArgument argument
  else .unknownCommand argument

/-- The options of a check. -/
def Given.checkOptions (g : Given) : CheckOptions :=
  ⟨g.file, g.policy, g.format.getD .human, g.strict⟩

def Given.command? (g : Given) : Level → Option Command
  | .top => .none
  | .check => some (.check g.checkOptions)
  | .rules => some .rules

/-- What the options before and after the name of a command say together. -/
def combine (before after : Given) (level : Level) : Options where
  project := after.project <|> before.project
  noColor := before.noColor || after.noColor
  debug := before.debug || after.debug
  command := after.command? level

/-- Reads arguments that do not follow the name of a command. -/
def parseFrom (p : Progress) : List String → Except Stop Options
  | [] => do return combine (← p.settle) .none .top
  | argument :: rest =>
    -- an option that waits takes even the name of a command as its value
    match if p.wantsValue then .none else levelOfName? argument with
    | some level => do
      let after ← Progress.start.readAll level rest
      return combine (← p.settle) after level
    | .none =>
      if !p.wantsValue && argument == helpName then .error (helpPage rest)
      else if argument == Progress.separator then
        match rest with
        | [] => do return combine (← p.settle) .none .top
        | stray :: _ => .error (.misused (strayAfterSeparator stray))
      else do parseFrom (← p.read .top argument) rest

/-- What the arguments of the program say. -/
def parse (arguments : List String) : Except Stop Options :=
  parseFrom .start arguments

end CommandLine

end WorkflowLint
