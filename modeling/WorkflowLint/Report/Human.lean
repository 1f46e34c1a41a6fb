import WorkflowLint.Report.Basic
import WorkflowLint.Report.Style

/-!
# Reports for readers

The location under a heading, then a block for the warnings and one for the errors, each with
its number and only if there are any, and last the result. A message is written as it is.
-/

namespace WorkflowLint

namespace Report

def warningMark : String :=
  "⚠"

def errorMark : String :=
  "✗"

/-- The line under the heading. -/
def rule : String :=
  "".pushn '=' 60

/-- The line of a diagnostic. -/
def item (mark : String) (d : Diagnostic) : String :=
  "  " ++ mark ++ "  " ++ d.message

/-- The lines of a block. -/
def block (title mark : String) (findings : Findings) : List String :=
  if findings.isEmpty then []
  else
    "" :: (title ++ " (" ++ toString findings.length ++ "):") :: findings.map (item mark)

/-- The line of the result. A run that passes has no errors. -/
def result (palette : Palette) (r : Report) : String :=
  let warnings := toString r.findings.warnings.length ++ " warning(s))"
  if r.passed then palette.passed.apply "RESULT: PASS" ++ " (0 errors, " ++ warnings
  else
    palette.failed.apply "RESULT: FAIL" ++ " (" ++ toString r.findings.errors.length ++
      " error(s), " ++ warnings

def lines (palette : Palette) (r : Report) : List String :=
  ["Validating: " ++ r.location, rule] ++
    block "Warnings" (palette.warning.apply warningMark) r.findings.warnings ++
    block "Errors" (palette.error.apply errorMark) r.findings.errors ++
    ["", result palette r]

def human (palette : Palette) (r : Report) : String :=
  String.join ((lines palette r).map (· ++ "\n"))

end Report

end WorkflowLint
