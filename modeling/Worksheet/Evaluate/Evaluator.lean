-- The evaluator: the order of the stages of an evaluation, how each fault becomes an outcome, and
-- what each stage does for one configuration.
import Worksheet.Compile.Backend
import Worksheet.Evaluate.Locks
import Worksheet.Fault
import Worksheet.Materialize
import Worksheet.Outcome
import Worksheet.Run.Session
import Worksheet.Run.Wait

namespace Worksheet

/-! ## The order of the stages -/

/-- The stages: the source is written, the written source is compiled, and what the compiler
reports on is run. The stop signal can be seen at any time. -/
structure Stages (σ : Type) where
  cancelled : σ → Bool
  materialize : Act σ Path
  compile : Path → Act σ Report
  execute : Report → Act σ RunResult

namespace Stages

def cancellation : Outcome := .executionFailure Wait.cancelMessage .cancelled

/-- Faults that the compiler's stage answers for. -/
def compileFault (fault : Fault) : Except Fault Outcome :=
  match fault with
  | .invocation cause => .ok (.executionFailure cause.message .compilerInvocation)
  | fault => .error fault

/-- Faults that the stage of the run answers for. -/
def executeFault (fault : Fault) : Except Fault Outcome :=
  match fault with
  | .timeout seconds => .ok (.executionFailure (Fault.timeout seconds).message .timeout)
  | .cancelled message => .ok (.executionFailure message .cancelled)
  | .execution cause => .ok (.executionFailure cause.message .execution)
  | fault => .error fault

/-- A report without errors is run. -/
def runReport {σ : Type} (st : Stages σ) (report : Report) : Act σ Outcome := fun s =>
  if report.hasErrors then (.ok (.compileFailure report), s)
  else if st.cancelled s then (.ok cancellation, s)
  else match st.execute report s with
    | (.ok r, s') => (.ok (.success r.output r.exitCode), s')
    | (.error fault, s') => (executeFault fault, s')

def compileSource {σ : Type} (st : Stages σ) (path : Path) : Act σ Outcome := fun s =>
  if st.cancelled s then (.ok cancellation, s)
  else match st.compile path s with
    | (.ok report, s') => st.runReport report s'
    | (.error fault, s') => (compileFault fault, s')

/-- All stages, up to the first that ends the evaluation. -/
def run {σ : Type} (st : Stages σ) : Act σ Outcome := fun s =>
  match st.materialize s with
  | (.ok path, s') => st.compileSource path s'
  | (.error fault, s') => (.error fault, s')

/-- Every evaluation has an outcome: a fault that no stage answers for is told with its class,
unless the source could not be written. -/
def conclude : Except Fault Outcome → Outcome
  | .ok outcome => outcome
  | .error (.materialization cause) => .executionFailure cause.message .io
  | .error fault => .executionFailure (fault.className ++ ": " ++ fault.message) .internal

end Stages

/-! ## The evaluator -/

/-- An evaluation under the lock of its source file. Without a key there is no lock, and no stage
begins. -/
def Stages.evaluate {σ : Type} (st : Stages σ) (key : Except Fault LockKey) (locks : Locks)
    (s : σ) : Outcome × Locks × σ :=
  match key with
  | .error fault => (Stages.conclude (.error fault), locks, s)
  | .ok key =>
    let (result, locks, s) := locks.guarded key st.run s
    (Stages.conclude result, locks, s)

namespace Stages

variable {σ : Type} (st : Stages σ) (locks : Locks) (s : σ)

theorem evaluate_error (fault : Fault) :
    st.evaluate (.error fault) locks s = (conclude (.error fault), locks, s) := rfl

theorem evaluate_ok (key : LockKey) :
    st.evaluate (.ok key) locks s =
      (conclude (st.run s).1, (locks.guarded key st.run s).2.1, (st.run s).2) := rfl

end Stages

/-- A program to run: the command of its runtime, class path, entry point and directory, and how
long it may take. -/
structure RunRequest where
  runtime : List String
  classpath : List String
  entryPoint : String
  workingDirectory : Path
  timeout : Option Double
  deriving DecidableEq

/-- Runs programs. -/
abbrev Executor (σ : Type) := RunRequest → Act σ RunResult

/-- A configuration with the parts that act on a state: a compiler, an executor and the stop
signal. The state holds a disk. -/
structure Evaluator (σ : Type) where
  config : Config
  installation : Installation
  backend : Backend σ
  executor : Executor σ
  cancelled : σ → Bool
  getDisk : σ → Disk
  setDisk : Disk → σ → σ

namespace Evaluator

def materializer {σ : Type} (e : Evaluator σ) : Materializer :=
  .ofExtension e.backend.extension (e.config.sourceDirectory.map Path.ofString)

/-- The class path of a run: the request's entries, then the output directory, in absolute form
because the program has a directory of its own. -/
def runClasspath (c : Config) (d : Disk) (entries : List String) : Except Fault (List String) :=
  match c.outputDirectory with
  | none => .ok entries
  | some directory =>
    if directory.isEmpty then .ok entries
    else (d.resolve (.ofString directory)).map fun path =>
      if entries.contains path.text then entries else entries ++ [path.text]

def runRequest {σ : Type} (e : Evaluator σ) (r : Request) (classpath : List String) : RunRequest :=
  ⟨e.config.resolvedRuntime e.installation, classpath, r.entryPoint, r.workingDirectory,
    e.config.timeout⟩

def label : String := "worksheet-classes-"

/-- Runs with artifacts in a directory, which comes first in the class path. -/
def runExported {σ : Type} (e : Evaluator σ) (r : Request) (classpath : List String)
    (artifacts : Artifacts) (scratch : Path) : Act σ RunResult := fun s =>
  match artifacts.exportTo scratch (e.getDisk s) with
  | (.error fault, d) => (.error (.artifact fault), e.setDisk d s)
  | (.ok (), d) => (e.executor (e.runRequest r (scratch.text :: classpath))).run (e.setDisk d s)

/-- Runs on a directory of its own, which holds the artifacts and is gone afterwards. -/
def runInScratch {σ : Type} (e : Evaluator σ) (r : Request) (classpath : List String)
    (artifacts : Artifacts) : Act σ RunResult := fun s =>
  match Disk.openScratch label (e.getDisk s) with
  | (.error fault, d) => (.error fault, e.setDisk d s)
  | (.ok place, d) =>
    let (result, s) := e.runExported r classpath artifacts place.path (e.setDisk d s)
    let (removed, d) := Disk.removeScratch place (e.getDisk s)
    (removed.bind fun _ => result, e.setDisk d s)

def execute {σ : Type} (e : Evaluator σ) (r : Request) (report : Report) : Act σ RunResult :=
  fun s =>
    match runClasspath e.config (e.getDisk s) r.classpath with
    | .error fault => (.error fault, s)
    | .ok classpath =>
      match report.output with
      | none => e.executor (e.runRequest r classpath) s
      | some artifacts => e.runInScratch r classpath artifacts s

def materialize {σ : Type} (e : Evaluator σ) (r : Request) : Act σ Path := fun s =>
  match (e.materializer.materialize r.entryPoint r.source).run (e.getDisk s) with
  | (.ok written, d) => (.ok written.path, e.setDisk d s)
  | (.error fault, d) => (.error fault, e.setDisk d s)

def compile {σ : Type} (e : Evaluator σ) (r : Request) (source : Path) : Act σ Report :=
  e.backend.compile e.config source (e.backend.entryArguments r.entryPoint) r.classpath

def stages {σ : Type} (e : Evaluator σ) (r : Request) : Stages σ where
  cancelled := e.cancelled
  materialize := e.materialize r
  compile := e.compile r
  execute := e.execute r

@[simp] theorem stages_cancelled {σ : Type} (e : Evaluator σ) (r : Request) :
    (e.stages r).cancelled = e.cancelled := by
  dsimp only [stages]

@[simp] theorem stages_materialize {σ : Type} (e : Evaluator σ) (r : Request) :
    (e.stages r).materialize = e.materialize r := by
  dsimp only [stages]

@[simp] theorem stages_compile {σ : Type} (e : Evaluator σ) (r : Request) :
    (e.stages r).compile = e.compile r := by
  dsimp only [stages]

@[simp] theorem stages_execute {σ : Type} (e : Evaluator σ) (r : Request) :
    (e.stages r).execute = e.execute r := by
  dsimp only [stages]

/-- The lock that a request needs. -/
def lockKey {σ : Type} (e : Evaluator σ) (r : Request) (d : Disk) : Except Fault LockKey :=
  (e.materializer.sourcePath d.currentPath r.entryPoint).bind (LockKey.ofSource d)

/-- One evaluation of a request. -/
def evaluate {σ : Type} (e : Evaluator σ) (r : Request) (locks : Locks) (s : σ) :
    Outcome × Locks × σ :=
  (e.stages r).evaluate (e.lockKey r (e.getDisk s)) locks s

end Evaluator

end Worksheet
