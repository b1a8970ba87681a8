-- The life of a program from its start to its result: the wait for its end, the draining of its two
-- output streams into one buffer, and the verdict. Each stream has a reader of its own, which reads
-- chunk after chunk until the stream ends or a read fails; the chunks are kept in the order in which
-- they arrive.
import Worksheet.Fault
import Worksheet.Text.Encoding

namespace Worksheet

open Text (Bytes)

/-! ## Draining -/

/-- A reader at work, or one that is done, with the fault that it tells of. -/
inductive Reader
  | reading
  | done (fault : Option Fault)
  deriving DecidableEq

namespace Reader

def isReading : Reader → Bool
  | reading => true
  | done _ => false

def fault? : Reader → Option Fault
  | reading => none
  | done fault => fault

/-- A reader that stops on a fault tells of failures of the system and of wrong values, and of
no other fault. -/
def stoppedBy (fault : Fault) : Reader :=
  if fault.isSystemFault || fault.isValueFault then done (some fault) else done none

end Reader

/-- The chunks that have arrived with the streams that they come from, latest first, and the two
readers. -/
structure Drain where
  chunks : List (OutputStream × Bytes)
  stdout : Reader
  stderr : Reader

namespace Drain

def start : Drain := ⟨[], .reading, .reading⟩

def reader (d : Drain) : OutputStream → Reader
  | .stdout => d.stdout
  | .stderr => d.stderr

def setReader (d : Drain) (r : Reader) : OutputStream → Drain
  | .stdout => { d with stdout := r }
  | .stderr => { d with stderr := r }

/-- All bytes that have arrived. -/
def output (d : Drain) : Bytes := d.chunks.reverse.flatMap (·.2)

/-- The bytes that have arrived from one stream. -/
def outputOf (d : Drain) (stream : OutputStream) : Bytes :=
  (d.chunks.reverse.filter fun c => c.1 = stream).flatMap (·.2)

/-- What one read gives. An empty chunk is the end of the stream. -/
def read (d : Drain) (stream : OutputStream) (result : Except Fault Bytes) : Drain :=
  match d.reader stream, result with
  | .done _, _ => d
  | .reading, .error fault => d.setReader (.stoppedBy fault) stream
  | .reading, .ok [] => d.setReader (.done none) stream
  | .reading, .ok (b :: bytes) => { d with chunks := (stream, b :: bytes) :: d.chunks }

/-- The drain after a number of reads, in the order of their arrival. -/
def after (reads : List (OutputStream × Except Fault Bytes)) : Drain :=
  reads.foldl (fun d r => d.read r.1 r.2) start

/-- One of the streams is still read. -/
def isOpen (d : Drain) : Bool := d.stdout.isReading || d.stderr.isReading

/-- The first fault that a reader tells of. -/
def fault? (d : Drain) : Option (OutputStream × Fault) :=
  match d.stdout.fault?, d.stderr.fault? with
  | some fault, _ => some (.stdout, fault)
  | none, some fault => some (.stderr, fault)
  | none, none => none

end Drain

/-! ## Sessions -/

/-- What a program wrote and how it exited. -/
structure RunResult where
  output : Text.Points
  exitCode : Int
  deriving DecidableEq, Repr

/-- What can be done with a program that has been started. `join` goes on until the reader of a
stream is done, or for so many seconds. -/
structure ChildOps (σ : Type) where
  killGroup : σ → σ
  reap : σ → σ
  join : OutputStream → Rat → σ → σ
  close : OutputStream → σ → σ
  drain : σ → Drain

/-- How long the streams of a program that has ended are waited for: before everything that it
left behind is killed, and after that. -/
structure Patience where
  grace : Rat
  rest : Rat
  deriving DecidableEq

def Patience.usual : Patience := ⟨1, 5⟩

namespace Session

/-- A program is killed with all that it has started. -/
def kill {σ : Type} (ops : ChildOps σ) (s : σ) : σ := ops.reap (ops.killGroup s)

/-- A stream that is still read is left alone. -/
def finishStream {σ : Type} (ops : ChildOps σ) (patience : Rat) (stream : OutputStream)
    (s : σ) : σ :=
  let s := ops.join stream patience s
  if ((ops.drain s).reader stream).isReading then s else ops.close stream s

def finishStreams {σ : Type} (ops : ChildOps σ) (p : Patience) (s : σ) : σ :=
  let s := ops.join .stderr p.grace (ops.join .stdout p.grace s)
  let s := if (ops.drain s).isOpen then kill ops s else s
  finishStream ops p.rest .stderr (finishStream ops p.rest .stdout s)

/-- The text of an output in a named encoding. -/
def decode (encoding : String) (output : Bytes) : Except Fault Text.Points :=
  (Text.Encoding.read encoding output).mapError .encoding

/-- The order in which failures count: of the wait, of a read, and the death by a signal. -/
def verdict (command encoding : String) (waited : Except Fault Int) (d : Drain) :
    Except Fault RunResult :=
  match waited with
  | .error fault =>
    if fault.isSystemFault then .error (.execution (.waiting command fault.message))
    else .error fault
  | .ok code =>
    match d.fault? with
    | some (stream, fault) => .error (.execution (.reading stream fault.message))
    | none =>
      if code < 0 then .error (.execution (.killed (-code)))
      else (decode encoding d.output).map fun text => ⟨text, code⟩

/-- Follows a program that has been started to its end. A wait that fails kills it. -/
def run {σ : Type} (ops : ChildOps σ) (p : Patience) (command encoding : String)
    (wait : σ → Except Fault Int × σ) (s : σ) : Except Fault RunResult × σ :=
  let (waited, s) := wait s
  let s := match waited with
    | .error _ => kill ops s
    | .ok _ => s
  let s := finishStreams ops p s
  (verdict command encoding waited (ops.drain s), s)

end Session

end Worksheet
