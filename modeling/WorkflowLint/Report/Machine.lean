import WorkflowLint.Json.Value
import WorkflowLint.Report.Basic

/-!
# Reports for programs

A report as one value of the JSON notation and a line feed: the location, the diagnostics in
order, and a summary that counts them and says whether the run passes.
-/

namespace WorkflowLint

open Json (Value)

/-- A diagnostic as a value. Without a suggestion there is no member for one. -/
def Diagnostic.toJson (d : Diagnostic) : Value :=
  .object
    ([("rule_id", .string d.rule), ("severity", .string d.severity.name),
      ("message", .string d.message)] ++
      d.suggestion.toList.map fun suggestion => ("suggestion", .string suggestion))

namespace Report

def summary (r : Report) : Value :=
  .object
    [("total", .number r.findings.length), ("errors", .number r.findings.errors.length),
      ("warnings", .number r.findings.warnings.length), ("passed", .bool r.passed)]

def toJson (r : Report) : Value :=
  .object
    [("path", .string r.location), ("diagnostics", .array (r.findings.map Diagnostic.toJson)),
      ("summary", r.summary)]

def machine (r : Report) : String :=
  r.toJson.text ++ "\n"

end Report

end WorkflowLint
