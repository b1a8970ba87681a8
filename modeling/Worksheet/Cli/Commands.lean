-- The commands of the program: what each one does, what it prints, and its exit status.
import Worksheet.Cli.Overrides
import Worksheet.Compile.Backend
import Worksheet.Evaluate.Evaluator

namespace Worksheet

namespace Cli

/-! ## Endings -/

/-- The exit status of a command, and what it printed. -/
structure Ending where
  status : Nat
  stdout : Text.Points
  stderr : Text.Points
  deriving DecidableEq, Repr

namespace Ending

def success (stdout : Text.Points) : Ending := ⟨0, stdout, []⟩

/-- A success that prints a plain text. -/
def printed (stdout : String) : Ending := success (.ofString stdout)

/-- A refusal of the command line, or of what it names. -/
def refused (message : String) : Ending := ⟨2, [], .ofString (message ++ "\n")⟩

/-- A program that ran is a success whatever its own exit code. -/
def statusOf : Outcome → Nat
  | .success .. => 0
  | .compileFailure _ => 1
  | .executionFailure .. => 2

/-- A success is printed as it is; what went wrong goes to the other stream. -/
def ofOutcome : Outcome → Ending
  | .success output _ => success output
  | outcome => ⟨statusOf outcome, [], outcome.render ++ .ofString "\n"⟩

def ofOutcomeAsJson (outcome : Outcome) : Ending :=
  ⟨statusOf outcome, .ofString (outcome.toJson.lines Json.asciiStyle ++ "\n"), []⟩

end Ending

/-- What the commands work with. A program is run with the encoding of its output. -/
structure Workbench (σ : Type) where
  installation : Installation
  tools : Toolchain σ
  execute : String → Executor σ

namespace Workbench

variable {σ : Type}

/-! ## Run -/

/-- An evaluator that nothing cancels. -/
def evaluator (b : Workbench σ) (c : Config) : Evaluator σ where
  config := c
  installation := b.installation
  backend := b.tools.select c
  executor := b.execute c.outputEncoding
  cancelled _ := false
  getDisk := b.tools.getDisk
  setDisk := b.tools.setDisk

def evaluate (b : Workbench σ) (c : Config) (r : Request) : σ → Outcome × σ := fun s =>
  let (outcome, _, s) := (b.evaluator c).evaluate r .empty s
  (outcome, s)

/-- A working directory is made absolute, because the program runs there. -/
def directoryOf (d : Disk) : Option String → Except Fault Path
  | some cwd => d.resolve (.ofString cwd)
  | none => .error (.wrongType (.notAPath "list"))

/-- An entry point without words has no simple name. -/
def entryOf : Option String → Except Fault String
  | some entry => .ok entry
  | none => .error (.noAttribute "list" "rfind")

/-- The outcome of one evaluation. -/
def outcomeOf (b : Workbench σ) (c : Config) (a : SourceArguments) (directory : Path)
    (source : String) : σ → Outcome × σ := fun s =>
  match entryOf a.entry with
  | .error fault => (Stages.conclude (.error fault), s)
  | .ok entry => b.evaluate c ⟨entry, .ofString source, a.classpath, directory⟩ s

def run (b : Workbench σ) (c : Config) (a : SourceArguments) (cwd : Option String)
    (json : Bool) : Act σ Ending := fun s =>
  let d := b.tools.getDisk s
  match (Disk.readText (.ofString a.source) d).1 with
  | .error fault =>
    if fault.isSystemFault then
      (.ok (.refused ("Error: cannot read " ++ a.source ++ ": " ++ fault.message)), s)
    else (.error fault, s)
  | .ok source =>
    match directoryOf d cwd with
    | .error fault => (.error fault, s)
    | .ok directory =>
      let (outcome, s) := b.outcomeOf c a directory source s
      (.ok (if json then .ofOutcomeAsJson outcome else .ofOutcome outcome), s)

/-! ## Compile -/

/-- Reads the source, writes it where the entry point wants it, and compiles what was written. -/
def report (b : Workbench σ) (c : Config) (a : SourceArguments) : Act σ (Path × Report) := fun s =>
  let backend := b.tools.select c
  let materializer := Materializer.ofExtension backend.extension (c.sourceDirectory.map .ofString)
  let write : Act Disk (String × Materialized) := do
    let source ← Disk.readText (.ofString a.source)
    let entry ← Act.ofExcept (entryOf a.entry)
    return (entry, ← materializer.materialize entry (.ofString source))
  match Act.within b.tools.getDisk b.tools.setDisk write s with
  | (.error fault, s) => (.error fault, s)
  | (.ok (entry, written), s) =>
    match backend.compile c written.path (backend.entryArguments entry) a.classpath s with
    | (.error fault, s) => (.error fault, s)
    | (.ok report, s) => (.ok (written.path, report), s)

/-- The faults that the command answers for. A failure of the disk is told as a failure to read
the source. -/
def compileFault (source : String) (fault : Fault) : Except Fault Outcome :=
  match fault with
  | .materialization cause => .ok (.executionFailure cause.message .io)
  | .invocation cause => .ok (.executionFailure cause.message .compilerInvocation)
  | fault =>
    if fault.isSystemFault then
      .ok (.executionFailure ("Cannot read " ++ source ++ ": " ++ fault.message) .io)
    else .error fault

/-- The diagnostics of a compilation without errors, and a last line that says so. -/
def compiled (path : Path) (r : Report) : Ending :=
  .printed (String.join (r.diagnostics.map fun d => d.line path.name ++ "\n") ++
    "Compiled " ++ path.name ++ "\n")

def compile (b : Workbench σ) (c : Config) (a : SourceArguments) : Act σ Ending := fun s =>
  match b.report c a s with
  | (.error fault, s) => ((compileFault a.source fault).map .ofOutcome, s)
  | (.ok (path, report), s) =>
    (.ok (if report.hasErrors then .ofOutcome (.compileFailure report)
      else compiled path report), s)

/-! ## All commands -/

/-- A configuration that cannot be read or is not valid is refused. -/
def configFault (fault : ConfigFault) : Except Fault Ending :=
  let refusal : Ending := .refused ("Error: invalid configuration: " ++ fault.message)
  match fault with
  | .unreadable fault => if fault.isSystemFault then .ok refusal else .error fault
  | .invalid _ => .ok refusal

def command (b : Workbench σ) (c : Config) : Command → Act σ Ending
  | .run source cwd json => b.run c source cwd json
  | .compile source => b.compile c source
  | .config => Act.ofExcept (.ok (.printed (c.text ++ "\n")))

/-- One command under its configuration. Without a command there is the help page. A fault that
no command answers for goes on as it is. -/
def perform (b : Workbench σ) (a : Arguments) : Act σ Ending := fun s =>
  match a.command with
  | none => (.ok ⟨1, .ofString (Usage.commandHelp commands), []⟩, s)
  | some command =>
    match loadConfig a.overrides (b.tools.getDisk s) with
    | .ok c => b.command c command s
    | .error fault => (configFault fault, s)

end Workbench

end Cli

end Worksheet
