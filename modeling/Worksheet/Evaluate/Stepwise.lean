-- Evaluations with the bytecode compiler, cut into the actions in between which other evaluations
-- can act: a file is opened, filled or read, a directory is made, the stop signal is looked at.
import Worksheet.Compile.Backend
import Worksheet.Evaluate.Evaluator
import Worksheet.Evaluate.Script

namespace Worksheet

open Text (Bytes Octets Points)

/-- What evaluations share: the disk, and all else that they see or change. -/
structure Site (τ : Type) where
  disk : Disk
  other : τ

/-- A bytecode file that an evaluation has emitted, below a directory once it has one. -/
structure Emission where
  directory : Option Path
  data : Bytes
  deriving DecidableEq

/-- The next action of an evaluation: code is made of a source, a program is run that needs what
the evaluation has emitted, or anything else. -/
inductive Event
  | other
  | generate (request : CodeRequest)
  | run (request : RunRequest) (emission : Option Emission)
  deriving DecidableEq

/-- Work on a site. -/
abbrev Steps (τ α : Type) := Script Event (Site τ) α

namespace Steps

variable {τ : Type}

/-- A single action on the disk. -/
def onDisk {α : Type} (action : Disk → α × Disk) : Steps τ α :=
  .ask .other fun s => ((action s.disk).1, { s with disk := (action s.disk).2 })

/-- A look at the site. -/
def look {α : Type} (f : Site τ → α) : Steps τ α := .ask .other fun s => (f s, s)

/-! ## Files -/

/-- Opens a file to be written, fresh. -/
def openToWrite (raw : Octets) : Steps τ (Except Errno Place) :=
  onDisk fun d =>
    match d.openToWrite d.current Mode.usualMask true raw with
    | .error e => (.error e, d)
    | .ok (place, d') => (.ok place, d')

def fill (place : Place) (content : Bytes) : Steps τ (Except Errno Unit) :=
  onDisk fun d =>
    match d.fill place content with
    | .error e => (.error e, d)
    | .ok d' => (.ok (), d')

def writeBytes (path : Path) (content : Bytes) : Steps τ (Except Fault Unit) :=
  match Disk.guardPath path.text with
  | .error e => .done (.error e)
  | .ok () => (openToWrite path.way.octets).bind fun
    | .error e => .done (.error (.system (.onPath e path.text)))
    | .ok place => (fill place content).map fun r => r.mapError fun e => .system (.plain e)

/-! ## Directories -/

def makeDirectory (way : Way) : Steps τ (Except Errno Unit) :=
  onDisk fun d =>
    match d.makeDirectory d.current Mode.usualMask way.octets with
    | .error e => (.error e, d)
    | .ok d' => (.ok (), d')

/-- A directory could not be made, which is no failure if it is there. -/
def acceptDirectory (way : Way) (e : Errno) : Steps τ (Except Disk.WayFault Unit) :=
  look fun s =>
    match s.disk.stat way.octets with
    | .ok (_, n) => if n.isDirectory then .ok () else .error (.failed e way)
    | .error e' => .error (.failed (if Disk.isAbsence e' then e else e') way)

def ensureDirectory (way : Way) : Steps τ (Except Disk.WayFault Unit) :=
  (makeDirectory way).bind fun
    | .ok () => .done (.ok ())
    | .error e => acceptDirectory way e

/-- Makes a directory and those above it that are missing, so many at most. -/
def makeDirectories (anchor : Anchor) :
    (room : Nat) → (reversedParts : List Octets) → Steps τ (Except Disk.WayFault Unit)
  | 0, _ => .done (.error .tooDeep)
  | _ + 1, [] => ensureDirectory ⟨anchor, []⟩
  | room + 1, c :: above =>
    (makeDirectory ⟨anchor, (c :: above).reverse⟩).bind fun
      | .ok () => .done (.ok ())
      | .error .noEntry =>
        (makeDirectories anchor room above).bind fun
          | .ok () => ensureDirectory ⟨anchor, (c :: above).reverse⟩
          | .error e => .done (.error e)
      | .error e => acceptDirectory ⟨anchor, (c :: above).reverse⟩ e

def makeWay (way : Way) : Steps τ (Except Disk.WayFault Unit) :=
  makeDirectories way.anchor Disk.maxNewDirectories way.parts.reverse

def ensurePath (path : Path) : Steps τ (Except Fault Unit) :=
  match Disk.guardPath path.text with
  | .error e => .done (.error e)
  | .ok () => (makeWay path.way).bind fun
    | .ok () => .done (.ok ())
    | .error (.failed e above) => .done (.error (.system (.onWay e above)))
    | .error .tooDeep => .done (.error .tooDeep)

/-! ## Artifacts -/

def exportInto (way : Way) (data : Bytes) : Steps τ (Except ArtifactFault Unit) :=
  if way.hasNul then .done (.error .nulByte)
  else (openToWrite way.octets).bind fun
    | .error e => .done (.error (.system e way.points))
    | .ok place => (fill place data).map fun r => r.mapError .noRoom

def exportFile (way : Way) (data : Bytes) : Steps τ (Except ArtifactFault Unit) :=
  if way.parent.hasNul then .done (.error .nulByte)
  else (makeWay way.parent).bind fun
    | .error (.failed e above) => .done (.error (.system e above.points))
    | .error .tooDeep => .done (.error .tooDeep)
    | .ok () => exportInto way data

def exportFiles (root : Path) : List (Points × Bytes) → Steps τ (Except ArtifactFault Unit)
  | [] => .done (.ok ())
  | (k, data) :: rest =>
    (exportFile (Artifacts.target root k) data).bind fun
      | .ok () => exportFiles root rest
      | .error e => .done (.error e)

end Steps

/-- One evaluation with the bytecode compiler: its configuration, the code generator, what runs
programs, the stop signal, and the request. None of these changes the disk. -/
structure Assignment (τ : Type) where
  config : Config
  installation : Installation
  generate : CodeGenerator τ
  executor : RunRequest → Disk → τ → Except Fault RunResult × τ
  cancelled : τ → Bool
  request : Request

namespace Assignment

open Steps

variable {τ : Type} (a : Assignment τ)

/-- The evaluator that the evaluation is made with. -/
def evaluator : Evaluator (Site τ) where
  config := a.config
  installation := a.installation
  backend := Toolchain.bytecode {
    generate := fun request s =>
      ((a.generate request s.other).1, { s with other := (a.generate request s.other).2 })
    runTool := fun _ _ s => (.timedOut, s)
    getDisk := Site.disk
    setDisk := fun d s => { s with disk := d } }
  executor request := fun s =>
    ((a.executor request s.disk s.other).1,
      { s with other := (a.executor request s.disk s.other).2 })
  cancelled s := a.cancelled s.other
  getDisk := Site.disk
  setDisk d s := { s with disk := d }

def stages : Stages (Site τ) := a.evaluator.stages a.request

def key (s : Site τ) : Except Fault LockKey := a.evaluator.lockKey a.request s.disk

/-! ## Stages -/

def sourcePath (d : Disk) : Except Fault Path :=
  a.evaluator.materializer.sourcePath d.currentPath a.request.entryPoint

def materialize : Steps τ (Except Fault Path) :=
  (look fun s => a.sourcePath s.disk).andThen fun path =>
    match Text.Utf8.encode a.request.source with
    | .error run => .done (.error (.materialization (.unencodable path run)))
    | .ok content => (writeBytes path content).bind fun
      | .error (.system e) => .done (.error (.materialization (.unwritable path e)))
      | .error e => .done (.error e)
      | .ok () => .done (.ok path)

/-- The command line of the compiler. -/
def arguments (source : Path) : List String :=
  Backend.arguments a.config source (Backend.moduleArguments a.request.entryPoint)
    a.request.classpath

/-- Reads the source, and then asks for its time of last change. -/
def readSource (path : Path) : Steps τ (Except Fault (Bytes × Int)) :=
  (onDisk (Bytecode.readSource path)).andThen fun (source, _) =>
    (onDisk (Bytecode.readSource path)).andThen fun (_, modified) =>
      .done (.ok (source, modified))

def generateCode (request : CodeRequest) : Steps τ CodeProduct :=
  .ask (.generate request) fun s =>
    ((a.generate request s.other).1, { s with other := (a.generate request s.other).2 })

def emitBelow (directory : Path) (module : String) (data : Bytes) : Steps τ (Except Fault Unit) :=
  let target := Bytecode.moduleFile directory module
  ((ensurePath target.parent).map (Bytecode.toldOf target)).andThen fun _ =>
    (writeBytes target data).map (Bytecode.toldOf target)

def emit (s : Settings) (report : Report) (data : Bytes) :
    Steps τ (Except Fault (Report × Option Emission)) :=
  match s.outputDirectory with
  | none => .done ((Bytecode.emitInMemory s.module data).map fun artifacts =>
      ({ report with output := some artifacts }, some ⟨none, data⟩))
  | some directory => (emitBelow directory s.module data).andThen fun _ =>
      .done (.ok (report, some ⟨some directory, data⟩))

def finish (s : Settings) (source : Bytes) (modified : Int) (p : CodeProduct) :
    Steps τ (Except Fault (Report × Option Emission)) :=
  match Bytecode.conclude s p with
  | .error e => .done (.error e)
  | .ok (diagnostics, code) =>
    let report : Report := ⟨diagnostics, none, some s.source⟩
    match code with
    | none => .done (.ok (report, none))
    | some code =>
      if report.hasErrors then .done (.ok (report, none))
      else match Bytecode.fileAt code source.length (Bytecode.secondsOf modified) with
        | .error e => .done (.error e)
        | .ok data => emit s report data

def compile (source : Path) : Steps τ (Except Fault (Report × Option Emission)) :=
  match Settings.ofArguments (a.arguments source) with
  | .error e => .done (.error (.invocation (.settings e)))
  | .ok s => (readSource s.source).andThen fun (content, modified) =>
    (a.generateCode ⟨content, s.source.text, s.optimize⟩).bind (finish s content modified)

def runProgram (classpath : List String) (emission : Option Emission) :
    Steps τ (Except Fault RunResult) :=
  let request := a.evaluator.runRequest a.request classpath
  .ask (.run request emission) fun s =>
    ((a.executor request s.disk s.other).1,
      { s with other := (a.executor request s.disk s.other).2 })

def runExported (classpath : List String) (artifacts : Artifacts) (emission : Option Emission)
    (scratch : Place) : Steps τ (Except Fault RunResult) :=
  (exportFiles scratch.path artifacts.files).bind fun
    | .error fault => .done (.error (.artifact fault))
    | .ok () => a.runProgram (scratch.path.text :: classpath)
        (emission.map fun e => { e with directory := some scratch.path })

def runInScratch (classpath : List String) (artifacts : Artifacts) (emission : Option Emission) :
    Steps τ (Except Fault RunResult) :=
  (onDisk (Disk.openScratch Evaluator.label)).andThen fun scratch =>
    (a.runExported classpath artifacts emission scratch).bind fun result =>
      (onDisk (Disk.removeScratch scratch)).bind fun removed =>
        .done (removed.bind fun _ => result)

def execute (report : Report) (emission : Option Emission) : Steps τ (Except Fault RunResult) :=
  (look fun s => Evaluator.runClasspath a.config s.disk a.request.classpath).andThen
    fun classpath =>
      match report.output with
      | none => a.runProgram classpath emission
      | some artifacts => a.runInScratch classpath artifacts emission

/-! ## The whole evaluation -/

def runReport (report : Report) (emission : Option Emission) : Steps τ (Except Fault Outcome) :=
  if report.hasErrors then .done (.ok (.compileFailure report))
  else (look fun s => a.cancelled s.other).bind fun
    | true => .done (.ok Stages.cancellation)
    | false => (a.execute report emission).bind fun
      | .ok r => .done (.ok (.success r.output r.exitCode))
      | .error fault => .done (Stages.executeFault fault)

def compileSource (source : Path) : Steps τ (Except Fault Outcome) :=
  (look fun s => a.cancelled s.other).bind fun
    | true => .done (.ok Stages.cancellation)
    | false => (a.compile source).bind fun
      | .ok (report, emission) => a.runReport report emission
      | .error fault => .done (Stages.compileFault fault)

/-- All that an evaluation does under the lock of its source. -/
def work : Steps τ (Except Fault Outcome) := a.materialize.andThen a.compileSource

end Assignment

end Worksheet
