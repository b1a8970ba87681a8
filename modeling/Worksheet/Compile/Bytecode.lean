-- The bytecode compiler. It reads one source, has code made of it, and emits one file laid out
-- by module name, in memory or below a directory.
import Worksheet.Compile.Settings
import Worksheet.Disk.Access
import Worksheet.Report

namespace Worksheet

open Text (Bytes)

/-! ## Code generation -/

/-- What the code generator is asked to do. -/
structure CodeRequest where
  source : Bytes
  filename : String
  optimize : Int
  deriving DecidableEq, Repr

structure CodeWarning where
  message : String
  line : Int
  deriving DecidableEq, Repr

/-- What the code generator did: the warnings that it issued, in order, and how it ended. A source
that it accepts gives the bytes of a code object. -/
structure CodeProduct where
  warnings : List CodeWarning
  result : Except Fault Bytes

/-- A warning is issued with a line that fits into a word of the system. -/
def CodeWarning.fault? (w : CodeWarning) : Option Fault :=
  if w.line < -9223372036854775808 || 9223372036854775807 < w.line then
    some (.overflow .machineWord)
  else if 2147483647 < w.line then some (.overflow .aboveWord)
  else if w.line < -2147483648 then some (.overflow .belowWord)
  else none

/-- A code generator may act on a state while it works. -/
abbrev CodeGenerator (σ : Type) := CodeRequest → σ → CodeProduct × σ

/-! ## Bytecode files -/

namespace Bytecode

def magic : Bytes := [0xA7, 0x0D, 0x0D, 0x0A]

/-- Four bytes, the lowest first, of a number taken modulo 2^32. -/
def word (n : Int) : Bytes :=
  let m := (n % 4294967296).toNat
  [UInt8.ofNat m, UInt8.ofNat (m / 256), UInt8.ofNat (m / 65536), UInt8.ofNat (m / 16777216)]

/-- A time without its fraction: the whole number next to it on the side of zero. -/
def wholeSeconds (x : Double) : Except Fault Int :=
  match x with
  | .nan => .error (.value .notANumber)
  | .infinite _ => .error (.overflow .infinity)
  | .finite negative m e _ =>
    let size : Nat := if 0 ≤ e then m * Nat.pow 2 e.toNat else m / Nat.pow 2 (-e).toNat
    .ok (if negative then -(size : Int) else size)

/-- Magic number, flags, time of last change and size of the source. -/
def header (seconds : Int) (size : Nat) : Bytes :=
  magic ++ word 0 ++ word seconds ++ word size

/-- A bytecode file: its header, then the code object. -/
def file (code : Bytes) (sourceSize : Nat) (seconds : Int) : Bytes :=
  header seconds sourceSize ++ code

def fileAt (code : Bytes) (sourceSize : Nat) (modified : Double) : Except Fault Bytes :=
  (wholeSeconds modified).map (file code sourceSize)

/-- A time in nanoseconds as a number of seconds: whole seconds and the rest are added as
doubles. -/
def secondsOf (nanoseconds : Int) : Double :=
  let whole := nanoseconds / 1000000000
  let rest := nanoseconds % 1000000000
  let billionth := Double.ofRat (mkRat 1 1000000000)
  let part := Double.ofRat ((billionth.toRat?.getD 0) * rest)
  Double.ofRat ((Double.ofInt whole).toRat?.getD 0 + part.toRat?.getD 0)

/-- A number of seconds in whole nanoseconds, rounded down after the fraction has been scaled. -/
def nanosecondsOf (seconds : Double) : Option Int :=
  seconds.toRat?.map fun q =>
    let whole : Int := if q < 0 then -(-q).floor else q.floor
    let part := (Double.ofRat ((q - whole) * 1000000000)).toRat?.getD 0
    whole * 1000000000 + part.floor

/-! ## Diagnostics -/

/-- A number that is missing and zero count alike. -/
def nonzero? (n : Option Int) : Option Int := n.filter (· ≠ 0)

def warningDiagnostic (severity : Severity) (w : CodeWarning) : Diagnostic :=
  ⟨severity, w.message, (nonzero? (some w.line)).map fun l => ⟨l, none⟩⟩

def warningDiagnostics (s : Settings) (ws : List CodeWarning) : List Diagnostic :=
  if s.noWarnings then []
  else ws.map (warningDiagnostic (if s.fatalWarnings then .error else .warning))

def sourceDiagnostic (f : SourceFault) : Diagnostic :=
  let message := match f.message with
    | some m => if m.isEmpty then f.text else m
    | none => f.text
  ⟨.error, message, (nonzero? f.line).map fun l => ⟨l, nonzero? f.column⟩⟩

/-- What the product comes to: diagnostics, with the code if there is any. A fault in the
source is a diagnostic; a wrong value, exhausted recursion or exhausted memory is a failure of
the compiler, and any other fault goes on as it is. -/
def conclude (s : Settings) (p : CodeProduct) :
    Except Fault (List Diagnostic × Option Bytes) :=
  let warned := warningDiagnostics s p.warnings
  match p.result with
  | .ok code => .ok (warned, some code)
  | .error (.source f) => .ok (warned ++ [sourceDiagnostic f], none)
  | .error e =>
    if e.isValueFault || e.isExhaustion then .error (.invocation (.gaveUp s.source e.message))
    else .error e

/-! ## Emitting -/

/-- The components of a module's file. -/
def moduleParts (module : String) : List String :=
  Text.splitString '/' (String.ofList (module.toList.map fun c => if c = '.' then '/' else c) ++
    ".pyc")

/-- The relative path of a module's file. -/
def modulePath (module : String) : String := "/".intercalate (moduleParts module)

/-- The file of a module below a directory. -/
def moduleFile (directory : Path) (module : String) : Path :=
  (moduleParts module).foldl Path.joinString directory

/-- A failure of the disk, told as a failure to write the target. -/
def toldOf {α : Type} (target : Path) : Except Fault α → Except Fault α
  | .error (.system e) => .error (.invocation (.unwritable target e))
  | r => r

/-- Writes a file below a directory, and the directories on the way. -/
def emitBelow (directory : Path) (module : String) (data : Bytes) : Act Disk Unit := fun d =>
  let target := moduleFile directory module
  match Disk.ensurePath target.parent d with
  | (.error e, d') => (toldOf target (.error e), d')
  | (.ok (), d') =>
    let (r, d'') := Disk.writeBytes target data d'
    (toldOf target r, d'')

/-- Keeps a file in memory. -/
def emitInMemory (module : String) (data : Bytes) : Except Fault Artifacts :=
  match (Artifacts.empty Artifacts.defaultName).write (.ofString (modulePath module)) data with
  | .ok a => .ok a
  | .error e => .error (.artifact e)

def emit (s : Settings) (report : Report) (data : Bytes) : Act Disk Report := fun d =>
  match s.outputDirectory with
  | none => ((emitInMemory s.module data).map fun a => { report with output := some a }, d)
  | some directory =>
    match emitBelow directory s.module data d with
    | (.ok (), d') => (.ok report, d')
    | (.error e, d') => (.error e, d')

/-! ## A run of the compiler -/

/-- Reads the source; a failure of the disk is told as a failure to read it. -/
def readSource (path : Path) : Act Disk (Bytes × Int) := fun d =>
  match Disk.readBytes path d with
  | (.error (.system e), d') => (.error (.invocation (.unreadable path e)), d')
  | r => r

/-- What is left to do once the code generator has ended. -/
def finish (s : Settings) (source : Bytes) (modified : Int) (p : CodeProduct) : Act Disk Report :=
  fun d =>
    match conclude s p with
    | .error e => (.error e, d)
    | .ok (diagnostics, code) =>
      let report : Report := ⟨diagnostics, none, some s.source⟩
      match code with
      | none => (.ok report, d)
      | some code =>
        if report.hasErrors then (.ok report, d)
        else match fileAt code source.length (secondsOf modified) with
          | .error e => (.error e, d)
          | .ok data => emit s report data d

/-- One run, on a state that holds a disk. -/
def run {σ : Type} (generate : CodeGenerator σ) (getDisk : σ → Disk) (setDisk : Disk → σ → σ)
    (arguments : List String) : Act σ Report := fun st =>
  match Settings.ofArguments arguments with
  | .error e => (.error (.invocation (.settings e)), st)
  | .ok s =>
    match Act.within getDisk setDisk (readSource s.source) st with
    | (.error e, st') => (.error e, st')
    | (.ok (source, modified), st') =>
      let (product, st'') := generate ⟨source, s.source.text, s.optimize⟩ st'
      Act.within getDisk setDisk (finish s source modified product) st''

end Bytecode

end Worksheet
