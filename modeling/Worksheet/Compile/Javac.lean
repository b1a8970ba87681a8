-- The `javac` backend: an external program that writes diagnostics, and class files into a
-- directory.
import Worksheet.Compile.JavacOutput
import Worksheet.Disk.Access
import Worksheet.Report

namespace Worksheet

open Text (Bytes)

/-- How an external program ended. -/
inductive ToolEnd
  | finished (exitCode : Int) (stdout stderr : Bytes)
  | timedOut
  | failed (fault : Fault)

/-- Runs a command with a deadline in seconds. -/
abbrev ToolRunner (σ : Type) := List String → Double → σ → ToolEnd × σ

/-- The command of the compiler and its deadline. -/
structure Javac where
  command : String
  timeout : Double
  deriving DecidableEq

namespace Javac

/-- Exit codes of a compiler that did its work: no errors, and errors. -/
def isOrdinary (exitCode : Int) : Bool := exitCode = 0 || exitCode = 1

/-- Output is UTF-8, with every line end read as a line feed. -/
def decodeOutput (bytes : Bytes) : Except Fault (List Char) :=
  match Text.Utf8.decode bytes with
  | .ok cs => .ok (Text.unifyLineEnds cs)
  | .error bad => .error (.undecodable bad)

/-- The last thousand characters, without blanks around them. -/
def detail (stdout stderr : List Char) : String :=
  let cs := Text.trimBlank (if stderr.isEmpty then stdout else stderr)
  String.ofList (cs.drop (cs.length - 1000))

/-- A failure without a diagnostic that says so gets one. -/
def withFailure (exitCode : Int) (stderr : List Char) (r : Report) : Report :=
  if exitCode = 1 && !r.hasErrors then
    let text := Text.trimBlank stderr
    r.add ⟨.error, if text.isEmpty then "javac reported errors" else String.ofList text, none⟩
  else r

/-- The report on a program that has ended. -/
def reportOf (source : Path) (exitCode : Int) (stdout stderr : List Char) :
    Except Fault Report :=
  if !isOrdinary exitCode then
    .error (.invocation (.failed exitCode (detail stdout stderr)))
  else
    (JavacOutput.diagnostics stderr).map fun ds =>
      withFailure exitCode stderr ⟨ds, none, some source⟩

/-- How the end of the program is told. -/
def conclude (j : Javac) (source : Path) : ToolEnd → Except Fault Report
  | .timedOut => .error (.invocation (.timedOut j.timeout))
  | .failed (.system e) =>
    if e.className = "FileNotFoundError" then .error (.invocation (.missing j.command))
    else .error (.invocation (.notStarted e))
  | .failed e => .error e
  | .finished exitCode stdout stderr =>
    match decodeOutput stdout with
    | .error e => .error e
    | .ok out =>
      match decodeOutput stderr with
      | .error e => .error e
      | .ok err => reportOf source exitCode out err

def compile {σ : Type} (j : Javac) (runTool : ToolRunner σ) (arguments : List String)
    (source : Path) : Act σ Report := fun s =>
  let (ended, s') := runTool (j.command :: arguments) j.timeout s
  (j.conclude source ended, s')

/-- Takes the class files of a compilation without errors into memory. -/
def collect (d : Disk) (scratch : Path) (r : Report) : Except Fault Report :=
  if r.hasErrors then .ok r
  else
    match Artifacts.load d scratch Artifacts.defaultName with
    | .ok a => .ok { r with output := some a }
    | .error e => .error (.artifact e)

def label : String := "worksheet-javac-"

/-- Compiles into a directory of its own that is gone afterwards. -/
def compileInScratch {σ : Type} (j : Javac) (runTool : ToolRunner σ) (getDisk : σ → Disk)
    (setDisk : Disk → σ → σ) (arguments : List String) (source : Path) : Act σ Report := fun s =>
  match Disk.openScratch label (getDisk s) with
  | (.error fault, d) => (.error fault, setDisk d s)
  | (.ok place, d) =>
    let scratch := place.path
    let (r, s) := j.compile runTool ("-d" :: scratch.text :: arguments) source (setDisk d s)
    let collected := r.bind (collect (getDisk s) scratch)
    let (removed, d) := Disk.removeScratch place (getDisk s)
    (removed.bind fun _ => collected, setDisk d s)

/-- The last word of the command line is the source. Without an output directory the class files
are kept in memory. -/
def run {σ : Type} (j : Javac) (runTool : ToolRunner σ) (getDisk : σ → Disk)
    (setDisk : Disk → σ → σ) (arguments : List String) : Act σ Report :=
  match arguments.getLast? with
  | none => Act.ofExcept (.error (.invocation .noSource))
  | some word =>
    if isOptionWord word then Act.ofExcept (.error (.invocation .noSource))
    else
      let source := Path.ofString word
      if arguments.contains "-d" then j.compile runTool arguments source
      else j.compileInScratch runTool getDisk setDisk arguments source

end Javac

end Worksheet
