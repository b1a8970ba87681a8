-- What a compiler run reports: diagnostics in the order of their emission, each with how severe it
-- is, where, and what, and the artifacts that the run left in memory.
import Worksheet.Artifacts
import Worksheet.Json.Value

namespace Worksheet

/-! ## Diagnostics -/

inductive Severity
  | info
  | warning
  | error
  deriving DecidableEq, Repr

namespace Severity

def text : Severity → String
  | info => "info"
  | warning => "warning"
  | error => "error"

def ofText? (s : String) : Option Severity :=
  [info, warning, error].find? fun v => v.text = s

end Severity

/-- A place in a source; some compilers leave the column out. -/
structure Position where
  line : Int
  column : Option Int
  deriving DecidableEq, Repr

namespace Position

def text (p : Position) : String :=
  match p.column with
  | none => toString p.line
  | some c => toString p.line ++ ":" ++ toString c

end Position

structure Diagnostic where
  severity : Severity
  message : String
  position : Option Position
  deriving DecidableEq, Repr

namespace Diagnostic

def toJson (d : Diagnostic) : Json :=
  .object [
    ("severity", .string d.severity.text),
    ("message", .string d.message),
    ("line", Json.ofOption (fun p => .integer p.line) d.position),
    ("column", Json.ofOption .integer (d.position.bind (·.column)))]

/-- One line: source name, position if there is one, severity and message. -/
def line (sourceName : String) (d : Diagnostic) : String :=
  sourceName ++ ":" ++ (match d.position with
    | none => ""
    | some p => p.text ++ ":") ++ " " ++ d.severity.text ++ ": " ++ d.message

end Diagnostic

/-! ## Reports -/

structure Report where
  diagnostics : List Diagnostic
  output : Option Artifacts
  sourcePath : Option Path
  deriving DecidableEq, Repr

namespace Report

def empty (sourcePath : Option Path) : Report := ⟨[], none, sourcePath⟩

def hasErrors (r : Report) : Bool := r.diagnostics.any fun d => d.severity = .error

def errors (r : Report) : List Diagnostic := r.diagnostics.filter fun d => d.severity = .error

def warnings (r : Report) : List Diagnostic := r.diagnostics.filter fun d => d.severity = .warning

def add (r : Report) (d : Diagnostic) : Report := { r with diagnostics := r.diagnostics ++ [d] }

theorem hasErrors_iff_errors_ne_nil (r : Report) : r.hasErrors ↔ r.errors ≠ [] := by
  simp [hasErrors, errors]

def toJson (r : Report) : Json :=
  .object [
    ("source_path", Json.ofOption (fun p => .string p.text) r.sourcePath),
    ("has_errors", .bool r.hasErrors),
    ("diagnostics", .array (r.diagnostics.map Diagnostic.toJson))]

/-- The name that stands before each diagnostic. -/
def sourceName (r : Report) : String :=
  match r.sourcePath with
  | some p => p.name
  | none => "<source>"

end Report

end Worksheet
