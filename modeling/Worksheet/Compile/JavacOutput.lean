-- The text that `javac` writes about a source. A line with a place opens a diagnostic, a caret
-- line under the echoed source gives its column, and lines after the caret extend its message.
import Worksheet.Fault
import Worksheet.Report
import Worksheet.Text.Split

namespace Worksheet

namespace JavacOutput

open Text

/-! ## Kinds of lines -/

/-- What a line is, by the first form that it has. -/
inductive LineKind
  | header (line : List Char) (severity : Severity) (message : List Char)
  | bare (severity : Severity) (message : List Char)
  | note (message : List Char)
  | summary
  | other
  deriving DecidableEq, Repr

/-- Takes a word off the front of a line. -/
def after? (word : String) (cs : List Char) : Option (List Char) :=
  if startsWith word.toList cs then some (cs.drop word.toList.length) else none

/-- A severity and the message after it. -/
def severity? (cs : List Char) : Option (Severity × List Char) :=
  match after? "error: " cs with
  | some m => some (.error, m)
  | none => (after? "warning: " cs).map fun m => (.warning, m)

/-- What follows a file name in a line with a place: digits of any script, a severity and the
message. -/
def place? (cs : List Char) : Option LineKind := do
  let rest ← after? ".java:" cs
  let digits := rest.takeWhile isDigit
  if digits.isEmpty then none
  else
    let rest ← after? ": " (rest.dropWhile isDigit)
    let (severity, message) ← severity? rest
    some (.header digits severity message)

/-- A line with a place. Its file name is the shortest that is followed by a place, and has a
character before its extension. -/
def header? : List Char → Option LineKind
  | [] => none
  | _ :: rest =>
    match place? rest with
    | some h => some h
    | none => header? rest

/-- A count of errors or of warnings. -/
def isSummary (cs : List Char) : Bool :=
  let rest := cs.dropWhile isDigit
  !(cs.takeWhile isDigit).isEmpty &&
    [" error", " errors", " warning", " warnings"].any fun w => rest = w.toList

def kindOf (cs : List Char) : LineKind :=
  match header? cs with
  | some h => h
  | none =>
    match severity? cs with
    | some (severity, message) => .bare severity message
    | none =>
      match after? "Note: " cs with
      | some message => .note message
      | none => if isSummary cs then .summary else .other

/-- The blanks before a caret that stands alone on its line. -/
def caretIndent? (cs : List Char) : Option Nat :=
  match cs.dropWhile isBlank with
  | '^' :: rest => if rest.all isBlank then some (cs.takeWhile isBlank).length else none
  | _ => none

/-! ## Reading -/

/-- A diagnostic whose lines are still being read: the lines of its message so far, latest
first, and whether the next lines extend it. -/
structure Pending where
  severity : Severity
  message : List (List Char)
  line : Option Int
  column : Option Int
  caretSeen : Bool
  deriving DecidableEq, Repr

namespace Pending

def joined (lines : List (List Char)) : List Char := ['\n'].intercalate lines

def diagnostic (p : Pending) : Diagnostic :=
  ⟨p.severity, String.ofList (joined p.message.reverse), p.line.map fun l => ⟨l, p.column⟩⟩

/-- A line of the block that the diagnostic opened. -/
def extend (p : Pending) (cs : List Char) : Pending :=
  match caretIndent? cs, p.caretSeen with
  | some indent, false => { p with column := some (indent + 1), caretSeen := true }
  | _, false => p
  | _, true =>
    let text := trimBlank cs
    if text.isEmpty then p else { p with message := text :: p.message }

end Pending

/-- What has been read so far: finished diagnostics, latest first, and an open one. -/
structure Progress where
  finished : List Diagnostic
  pending : Option Pending
  deriving DecidableEq, Repr

namespace Progress

def close (p : Progress) : List Diagnostic :=
  match p.pending with
  | none => p.finished
  | some opened => opened.diagnostic :: p.finished

def readLine (p : Progress) (cs : List Char) : Except Fault Progress :=
  match kindOf cs with
  | .header digits severity message =>
    match readDigits digits with
    | .ok n => .ok ⟨p.close, some ⟨severity, [message], some n, none, false⟩⟩
    | .error (.tooLong count) => .error (.value (.tooManyDigits count))
    | .error .malformed => .ok ⟨p.close, none⟩
  | .bare severity message => .ok ⟨p.close, some ⟨severity, [message], none, none, true⟩⟩
  | .note message => .ok ⟨⟨.info, String.ofList message, none⟩ :: p.close, none⟩
  | .summary => .ok ⟨p.close, none⟩
  | .other => .ok { p with pending := p.pending.map fun opened => opened.extend cs }

def readLines : List (List Char) → Progress → Except Fault Progress
  | [], p => .ok p
  | cs :: rest, p =>
    match p.readLine cs with
    | .ok p' => readLines rest p'
    | .error e => .error e

end Progress

/-- The diagnostics of an output text, in order. -/
def diagnostics (output : List Char) : Except Fault (List Diagnostic) :=
  (Progress.readLines (splitLines output) ⟨[], none⟩).map fun p => p.close.reverse

end JavacOutput

end Worksheet
