import WorkflowLint.Log.Filter
import WorkflowLint.Run

/-!
# The program

A whole run of the program: the arguments are read, the command runs, and what it says goes to
two places, its text to the output and everything else, line by line, beside it. Arguments that
are refused end the program with a status of its own.
-/

namespace WorkflowLint

/-- What the program knows of the place where it runs. -/
structure Surroundings where
  /-- The directory that it runs in. -/
  here : String
  /-- The output is a terminal that shows colours. -/
  colorTerminal : Bool
  /-- The variables of the environment that are set, with their values. -/
  settings : List (String × String)

namespace Surroundings

/-- The value of a variable. -/
def value? (s : Surroundings) (name : String) : Option String :=
  (s.settings.find? (·.1 == name)).map Prod.snd

/-- Styles are shown: nothing speaks against colours, and they are forced, or the terminal shows
them. -/
def showsStyles (s : Surroundings) : Bool :=
  (s.value? "NO_COLOR").isNone &&
    ((s.value? "CLICOLOR_FORCE").getD "0" != "0" ||
      (s.colorTerminal && (s.value? "CLICOLOR").getD "1" != "0"))

end Surroundings

/-- How the program ends. -/
structure Ending where
  status : Nat
  /-- What goes to the output, in pieces. -/
  output : List String
  /-- What goes beside the output. -/
  beside : List String

namespace Program

/-- The end of a program whose arguments ask for no run. -/
def ofStop : CommandLine.Stop → Ending
  | .misused e => ⟨2, [], [e.message]⟩
  | .help page => ⟨0, [page.text], []⟩
  | .version level => ⟨0, [level.version], []⟩

/-- The end of a program after a run. -/
def ofRun (filter : Log.Filter) (options : Options) (r : Run) : Ending :=
  let before := Log.texts filter (.started options :: r.events)
  match r.outcome with
  | .error e => ⟨1, [], before ++ ["Error: " ++ e.message]⟩
  | .ok o =>
    ⟨Run.status (.ok o.passed), o.pieces, before ++ Log.texts filter o.closing⟩

/-- Runs the program. -/
def run {m : Type → Type} [Monad m] (read : String → m Contents) (s : Surroundings)
    (arguments : List String) : m Ending := do
  match CommandLine.parse arguments with
  | .error stop => return ofStop stop
  | .ok options =>
    let palette := Palette.choose (!options.noColor) (s.showsStyles)
    let r ← Command.run read palette (options.project.getD s.here) options.command
    return ofRun (.choose options.debug (s.value? "RUST_LOG")) options r

end Program

end WorkflowLint
