-- The runs of programs on the system: of entry points, and of compilers.
import Worksheet.Compile.Javac
import Worksheet.Evaluate.Evaluator
import Worksheet.Host.Watch
import Worksheet.Request

namespace Worksheet.Host

open Text (Bytes)

/-- How entry points are run. A wait can be made to fail, and the first read of a stream. -/
structure RunSettings where
  encoding : String
  patience : Patience
  cancelAt : Option Int
  brokenWait : Option Fault
  brokenRead : Option (OutputStream × Fault)

namespace RunSettings

def ofEncoding (encoding : String) : RunSettings := ⟨encoding, .usual, none, none, none⟩

end RunSettings

namespace Machine

/-- Runs an entry point to its end. -/
def execute (settings : RunSettings) : Executor Machine := fun r m =>
  let command := runCommand r.runtime r.classpath r.entryPoint
  match m.spawn command (some r.workingDirectory) true with
  | (.error (.system fault), m) => (.error (.execution (.notStarted (command.headD "") fault)), m)
  | (.error fault, m) => (.error fault, m)
  | (.ok started, m) =>
    let w : Watch := ⟨m, started, .start, none, settings.cancelAt, settings.brokenRead⟩
    let wait (w : Watch) : Except Fault Int × Watch :=
      match settings.brokenWait with
      | some fault => (.error fault, w)
      | none => Wait.run Watch.waitOps r.timeout w
    let (result, w) :=
      Session.run Watch.childOps settings.patience (command.headD "") settings.encoding wait w
    (result, w.machine)

/-! ## Tools with a deadline -/

/-- Deadlines in milliseconds are kept in a word of the system, and times in a longer one. -/
def deadlineFault (seconds : Double) : Option Fault :=
  match seconds.toRat? with
  | some q =>
    let milliseconds := (q * 1000).ceil
    if milliseconds ≤ 2147483647 then none
    else if milliseconds ≤ 9223372036854 then some (.overflow .timeout)
    else some (.overflow .timestamp)
  | none =>
    if seconds = .nan then some (.value .notANumber)
    else if seconds.isNegative then none
    else some (.overflow .infinity)

/-- A tool has ended and both its streams are read to their ends. -/
def isDone (w : Watch) : Bool := w.hasEnded && !w.drain.isOpen

/-- The end of a tool, or of its time: then it is killed, but nothing that it has started. -/
def concludeTool (w : Watch) : ToolEnd × Machine :=
  if isDone w then
    let w := w.collect
    let code := (w.ending.map Watch.exitCode).getD 0
    (.finished code (w.drain.outputOf .stdout) (w.drain.outputOf .stderr), w.machine)
  else
    (.timedOut, ((w.killAlone.collect.close .stdout).close .stderr).machine)

/-- Runs a tool and keeps what it writes. -/
def runTool : ToolRunner Machine := fun command timeout m =>
  match m.spawn command none false with
  | (.error fault, m) => (.failed fault, m)
  | (.ok started, m) =>
    let w : Watch := ⟨m, started, .start, none, none, none⟩
    match deadlineFault timeout with
    | some fault => (.failed fault, (concludeTool w).2)
    | none =>
      let allowed := (timeout.toRat?.map Watch.nanoseconds).getD 0
      concludeTool (w.advance (w.now + allowed) isDone)

end Machine

end Worksheet.Host
