-- The outcome of an evaluation, its JSON form and its text.
import Worksheet.Report

namespace Worksheet

/-- Why nothing could be run, or not to its end. -/
inductive FailureKind
  | io
  | compilerInvocation
  | execution
  | timeout
  | cancelled
  | internal
  deriving DecidableEq, Repr

namespace FailureKind

def text : FailureKind → String
  | io => "io"
  | compilerInvocation => "compiler_invocation"
  | execution => "execution"
  | timeout => "timeout"
  | cancelled => "cancelled"
  | internal => "internal"

def ofText? (s : String) : Option FailureKind :=
  [io, compilerInvocation, execution, timeout, cancelled, internal].find? fun v => v.text = s

end FailureKind

/-- A program that ran is a success whatever its exit code. -/
inductive Outcome
  | success (output : Text.Points) (exitCode : Int)
  | compileFailure (report : Report)
  | executionFailure (cause : String) (kind : FailureKind)
  deriving DecidableEq, Repr

namespace Outcome

def status : Outcome → String
  | success .. => "success"
  | compileFailure _ => "compile_failure"
  | executionFailure .. => "execution_failure"

def toJson (o : Outcome) : Json :=
  .object (("status", .string o.status) :: match o with
    | success output exitCode =>
      [("output", .ofPoints output), ("exit_code", .integer exitCode)]
    | compileFailure report => [("report", report.toJson)]
    | executionFailure cause kind =>
      [("kind", .string kind.text), ("cause", .string cause)])

/-! ## Text -/

/-- The last line of a compile failure counts its errors. -/
def errorCount (n : Nat) : String :=
  toString n ++ " error" ++ (if n = 1 then "" else "s") ++ " found"

def renderReport (r : Report) : String :=
  String.join (r.diagnostics.map fun d => d.line r.sourceName ++ "\n") ++
    errorCount r.errors.length

/-- A success is its output and nothing else. -/
def render : Outcome → Text.Points
  | success output _ => output
  | compileFailure report => .ofString (renderReport report)
  | executionFailure cause kind =>
    .ofString ("Evaluation failed (" ++ kind.text ++ "): " ++ cause)

end Outcome

end Worksheet
