-- The templates of outcomes, and what their names stand for.
import Worksheet.Outcome
import Worksheet.Template

namespace Worksheet

open Template (Value Scope valueTag blockTag)

/-! ## Values -/

/-- A place is shown as its text. -/
def Position.value (p : Position) : Value := .record (some p.text) []

def Severity.value (v : Severity) : Value := .record none [("value", .text (.ofString v.text))]

def FailureKind.value (v : FailureKind) : Value :=
  .record none [("value", .text (.ofString v.text))]

def Diagnostic.value (d : Diagnostic) : Value :=
  .record none [("severity", d.severity.value), ("message", .text (.ofString d.message)),
    ("position", match d.position with
      | some p => p.value
      | none => .nothing)]

def Report.value (r : Report) : Value :=
  .record none [("diagnostics", .list (r.diagnostics.map Diagnostic.value)),
    ("errors", .list (r.errors.map Diagnostic.value))]

namespace Outcome

/-- The names that the template of an outcome knows. -/
def scope : Outcome → Scope
  | .success output _ => [("outcome", .record none [("output", .text output)])]
  | .compileFailure report =>
    [("outcome", .record none [("report", report.value)]), ("report", report.value),
      ("source_name", .text (.ofString report.sourceName))]
  | .executionFailure cause kind =>
    [("outcome", .record none [("cause", .text (.ofString cause)), ("kind", kind.value)])]

/-! ## Templates -/

def successTemplate : List Char := valueTag "outcome.output"

/-- A line for each diagnostic, and a last one. -/
def compileFailureTemplate : List Char :=
  blockTag "for d in report.diagnostics" ++ ['\n'] ++
  valueTag "source_name" ++ [':'] ++
    blockTag "if d.position" ++ valueTag "d.position" ++ [':'] ++ blockTag "endif" ++ [' '] ++
    valueTag "d.severity.value" ++ [':', ' '] ++ valueTag "d.message" ++ ['\n'] ++
  blockTag "endfor" ++ ['\n'] ++
  blockTag "set n = report.errors|length" ++ ['\n'] ++
  valueTag "n" ++ " error".toList ++ valueTag "\"\" if n == 1 else \"s\"" ++
    " found".toList ++ ['\n']

def executionFailureTemplate : List Char :=
  "Evaluation failed (".toList ++ valueTag "outcome.kind.value" ++ "): ".toList ++
    valueTag "outcome.cause" ++ ['\n']

def template : Outcome → List Char
  | .success .. => successTemplate
  | .compileFailure _ => compileFailureTemplate
  | .executionFailure .. => executionFailureTemplate

/-- The text that an engine makes of an outcome. -/
def filledBy? (engine : Template.Engine) (o : Outcome) : Option Text.Points :=
  engine o.template o.scope

end Outcome

end Worksheet
