import WorkflowLint.CommandLine.Options
import WorkflowLint.Report.Human
import WorkflowLint.Report.Machine

/-!
# The forms of a report
-/

namespace WorkflowLint

namespace Report

/-- The text of a report in a form, in the pieces in which it is written. Only readers see
styles. -/
def pieces (palette : Palette) (r : Report) : Format → List String
  | .human => (lines palette r).map (· ++ "\n")
  | .json => [r.machine]

end Report

end WorkflowLint
