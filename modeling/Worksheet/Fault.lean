-- Faults: everything that can keep a stage of an evaluation from ending well, by its cause.
-- Each cause has one wording.
import Worksheet.Artifacts
import Worksheet.Compile.Settings
import Worksheet.Number.Layout
import Worksheet.Text.Encoding

namespace Worksheet

/-! ## Causes -/

/-- A failure that the operating system reports, and what it was about. -/
inductive SystemFault
  | failed (errno : Errno) (subject : String)
  | plain (errno : Errno)
  | stated (errno : Option Errno) (message : String)
  deriving DecidableEq, Repr

namespace SystemFault

/-- A failure on a path. -/
def onPath (errno : Errno) (path : String) : SystemFault := failed errno (Text.quoted path)

def onWay (errno : Errno) (way : Way) : SystemFault := failed errno (Text.quotedPoints way.points)

def message : SystemFault → String
  | failed errno subject => errno.sentence ++ ": " ++ subject
  | plain errno => errno.sentence
  | stated _ message => message

def className : SystemFault → String
  | failed errno _ => errno.className
  | plain errno => errno.className
  | stated (some errno) _ => errno.className
  | stated none _ => "OSError"

end SystemFault

/-- A source that its compiler refuses to read on: what is wrong and where. -/
structure SourceFault where
  message : Option String
  filename : Option String
  line : Option Int
  column : Option Int
  deriving DecidableEq, Repr

namespace SourceFault

/-- A line number that does not fit into a long word of the system is shown as -1. -/
def shownLine (line : Int) : Int :=
  if -9223372036854775808 ≤ line && line ≤ 9223372036854775807 then line else -1

/-- The message with as much of the place as is known. -/
def text (f : SourceFault) : String :=
  let message := f.message.getD "None"
  let file := f.filename.map fun n => String.ofList (Text.afterLast '/' n.toList)
  match file, f.line.map shownLine with
  | some n, some l => message ++ " (" ++ n ++ ", line " ++ toString l ++ ")"
  | some n, none => message ++ " (" ++ n ++ ")"
  | none, some l => message ++ " (line " ++ toString l ++ ")"
  | none, none => message

end SourceFault

/-- Why an instrumented source could not be written. -/
inductive MaterializationCause
  | noName (entryPoint : String)
  | unencodable (path : Path) (run : Text.Utf8.SurrogateRun)
  | unwritable (path : Path) (fault : SystemFault)
  | stated (message : String)
  deriving DecidableEq, Repr

namespace MaterializationCause

def message : MaterializationCause → String
  | noName entryPoint =>
    "Cannot derive a file name from entry point " ++ Text.quoted entryPoint
  | unencodable path run => "Could not encode source for " ++ path.text ++ ": " ++ run.message
  | unwritable path fault => "Could not write " ++ path.text ++ ": " ++ fault.message
  | stated message => message

end MaterializationCause

/-- Why a compiler could not do its work. -/
inductive InvocationCause
  | settings (fault : SettingsFault)
  | unreadable (path : Path) (fault : SystemFault)
  | gaveUp (path : Path) (message : String)
  | unwritable (path : Path) (fault : SystemFault)
  | noSource
  | missing (command : String)
  | timedOut (seconds : Double)
  | notStarted (fault : SystemFault)
  | failed (exitCode : Int) (detail : String)
  | stated (message : String)
  deriving DecidableEq

namespace InvocationCause

def message : InvocationCause → String
  | settings fault => fault.message
  | unreadable path fault => "Cannot read source " ++ path.text ++ ": " ++ fault.message
  | gaveUp path message => "Compiler failed on " ++ path.text ++ ": " ++ message
  | unwritable path fault => "Cannot write bytecode to " ++ path.text ++ ": " ++ fault.message
  | noSource => "No source file given to javac"
  | missing command => "javac not found: " ++ command
  | timedOut seconds => "Compilation timed out after " ++ seconds.briefText ++ "s"
  | notStarted fault => "Could not start javac: " ++ fault.message
  | failed exitCode detail =>
    "javac failed with exit code " ++ toString exitCode ++ ": " ++ detail
  | stated message => message

end InvocationCause

/-- The two streams on which a program writes. -/
inductive OutputStream
  | stdout
  | stderr
  deriving DecidableEq, Repr

namespace OutputStream

def text : OutputStream → String
  | stdout => "stdout"
  | stderr => "stderr"

end OutputStream

/-- The names of signals, by number. -/
def signalNames : List (Int × String) :=
  [(1, "SIGHUP"), (2, "SIGINT"), (3, "SIGQUIT"), (4, "SIGILL"), (5, "SIGTRAP"), (6, "SIGABRT"),
    (7, "SIGBUS"), (8, "SIGFPE"), (9, "SIGKILL"), (10, "SIGUSR1"), (11, "SIGSEGV"),
    (12, "SIGUSR2"), (13, "SIGPIPE"), (14, "SIGALRM"), (15, "SIGTERM"), (16, "SIGSTKFLT"),
    (17, "SIGCHLD"), (18, "SIGCONT"), (19, "SIGSTOP"), (20, "SIGTSTP"), (21, "SIGTTIN"),
    (22, "SIGTTOU"), (23, "SIGURG"), (24, "SIGXCPU"), (25, "SIGXFSZ"), (26, "SIGVTALRM"),
    (27, "SIGPROF"), (28, "SIGWINCH"), (29, "SIGIO"), (30, "SIGPWR"), (31, "SIGSYS"),
    (34, "SIGRTMIN"), (64, "SIGRTMAX")]

/-- A signal without a name of its own is called by its number. -/
def signalName (number : Int) : String :=
  (signalNames.lookup number).getD ("signal " ++ toString number)

/-- Why a program could not be run to its end. -/
inductive ExecutionCause
  | notStarted (command : String) (fault : SystemFault)
  | waiting (command : String) (message : String)
  | reading (stream : OutputStream) (message : String)
  | killed (signal : Int)
  | endless
  | stated (message : String)
  deriving DecidableEq, Repr

namespace ExecutionCause

def message : ExecutionCause → String
  | notStarted command fault => "Could not start " ++ command ++ ": " ++ fault.message
  | waiting command message => "Failed waiting for " ++ command ++ ": " ++ message
  | reading stream message => "I/O failure reading " ++ stream.text ++ ": " ++ message
  | killed signal => "Process was killed by " ++ signalName signal
  | endless => "Process did not finish"
  | stated message => message

end ExecutionCause

/-- Values that do not fit what is done with them. -/
inductive ValueCause
  | nulByte
  | notANumber
  | tooManyDigits (digits : Nat)
  | unknownSeverity (word : String)
  | unknownKind (word : String)
  | textFormat
  | stated (message : String)
  deriving DecidableEq, Repr

namespace ValueCause

def message : ValueCause → String
  | nulByte => "embedded null byte"
  | notANumber => "cannot convert float NaN to integer"
  | tooManyDigits digits =>
    "Exceeds the limit (4300 digits) for integer string conversion: value has " ++
      toString digits ++ " digits; use sys.set_int_max_str_digits() to increase the limit"
  | unknownSeverity word => Text.quoted word ++ " is not a valid Severity"
  | unknownKind word => Text.quoted word ++ " is not a valid FailureKind"
  | textFormat => "Unknown format code 'g' for object of type 'str'"
  | stated message => message

end ValueCause

/-- Values of a kind that cannot be used. -/
inductive TypeCause
  | notAPath (kind : String)
  | notAnOutcome (shown : String)
  | noFormat (kind : String)
  | notAnInteger (kind : String)
  | notIterable (kind : String)
  | tooFewPlaceItems (given : Nat)
  | tooManyPlaceItems (given : Nat)
  | openPlaceEnd
  | stated (message : String)
  deriving DecidableEq, Repr

namespace TypeCause

/-- The place of a source fault has four items, or six that give its end too. -/
def ofPlaceItems (given : Nat) : Option TypeCause :=
  if given < 4 then some (tooFewPlaceItems given)
  else if 6 < given then some (tooManyPlaceItems given)
  else if given = 5 then some openPlaceEnd
  else none

def message : TypeCause → String
  | notAPath kind => "expected str, bytes or os.PathLike object, not " ++ kind
  | notAnOutcome shown => "Not an evaluation outcome: " ++ shown
  | noFormat kind => "unsupported format string passed to " ++ kind ++ ".__format__"
  | notAnInteger kind => Text.quoted kind ++ " object cannot be interpreted as an integer"
  | notIterable kind => Text.quoted kind ++ " object is not iterable"
  | tooFewPlaceItems given =>
    "function takes at least 4 arguments (" ++ toString given ++ " given)"
  | tooManyPlaceItems given =>
    "function takes at most 6 arguments (" ++ toString given ++ " given)"
  | openPlaceEnd => "end_offset must be provided when end_lineno is provided"
  | stated message => message

end TypeCause

/-- Numbers that are too large for what is done with them. -/
inductive OverflowCause
  | infinity
  | wholeNumber
  | machineWord
  | aboveWord
  | belowWord
  | timeout
  | timestamp
  | stated (message : String)
  deriving DecidableEq, Repr

namespace OverflowCause

def message : OverflowCause → String
  | infinity => "cannot convert float infinity to integer"
  | wholeNumber => "int too large to convert to float"
  | machineWord => "Python int too large to convert to C long"
  | aboveWord => "signed integer is greater than maximum"
  | belowWord => "signed integer is less than minimum"
  | timeout => "timeout is too large"
  | timestamp => "timestamp too large to convert to C _PyTime_t"
  | stated message => message

end OverflowCause

/-! ## Faults -/

/-- A fault by its class. The classes that no part of the library tells apart are foreign, and are
known by name. -/
inductive Fault
  | evaluation (message : String)
  | materialization (cause : MaterializationCause)
  | invocation (cause : InvocationCause)
  | execution (cause : ExecutionCause)
  | timeout (seconds : Double)
  | cancelled (message : String)
  | system (fault : SystemFault)
  | artifact (fault : ArtifactFault)
  | value (cause : ValueCause)
  | undecodable (bad : Text.Utf8.BadBytes)
  | encoding (fault : Text.EncodingFault)
  | overflow (cause : OverflowCause)
  | source (fault : SourceFault)
  | wrongType (cause : TypeCause)
  | noAttribute (kind name : String)
  | linkLoop (path : Path)
  | runtime (message : String)
  | recursion (message : String)
  | memory (message : String)
  | foreign (className message : String)
  deriving DecidableEq

namespace Fault

def message : Fault → String
  | evaluation message => message
  | materialization cause => cause.message
  | invocation cause => cause.message
  | execution cause => cause.message
  | timeout seconds => "Execution timed out after " ++ seconds.briefText ++ "s"
  | cancelled message => message
  | system fault => fault.message
  | artifact fault => fault.message
  | value cause => cause.message
  | undecodable bad => bad.message
  | encoding fault => fault.message
  | overflow cause => cause.message
  | source fault => fault.text
  | wrongType cause => cause.message
  | noAttribute kind name =>
    Text.quoted kind ++ " object has no attribute " ++ Text.quoted name
  | linkLoop path => "Symlink loop from " ++ Text.quoted path.text
  | runtime message => message
  | recursion message => message
  | memory message => message
  | foreign _ message => message

/-- The class of a fault, as an unexpected one is reported. -/
def className : Fault → String
  | evaluation _ => "EvaluatorError"
  | materialization _ => "MaterializationError"
  | invocation _ => "CompilerInvocationError"
  | execution _ => "ExecutionError"
  | timeout _ => "ExecutionTimeout"
  | cancelled _ => "EvaluationCancelled"
  | system fault => fault.className
  | artifact fault => fault.className
  | value _ => "ValueError"
  | undecodable _ => "UnicodeDecodeError"
  | encoding (.unknown _) => "LookupError"
  | encoding (.notText _) => "LookupError"
  | encoding .nulInName => "ValueError"
  | encoding (.refused ..) => "UnicodeError"
  | encoding (.badByte _) => "UnicodeDecodeError"
  | overflow _ => "OverflowError"
  | source _ => "SyntaxError"
  | wrongType _ => "TypeError"
  | noAttribute .. => "AttributeError"
  | linkLoop _ => "RuntimeError"
  | runtime _ => "RuntimeError"
  | recursion _ => "RecursionError"
  | memory _ => "MemoryError"
  | foreign className _ => className

/-- The classes that a class of faults belongs to, nearest first. -/
def broaderClasses : Fault → List String
  | evaluation _ => []
  | materialization _ => ["EvaluatorError"]
  | invocation _ => ["EvaluatorError"]
  | execution _ => ["EvaluatorError"]
  | timeout _ => ["ExecutionError", "EvaluatorError"]
  | cancelled _ => ["ExecutionError", "EvaluatorError"]
  | system fault => if fault.className = "OSError" then [] else ["OSError"]
  | artifact (.system errno _) => if errno.className = "OSError" then [] else ["OSError"]
  | artifact (.noRoom errno) => if errno.className = "OSError" then [] else ["OSError"]
  | artifact (.missing _) => ["LookupError"]
  | artifact .tooDeep => ["RuntimeError"]
  | artifact .tooManyLevels => ["RuntimeError"]
  | artifact _ => []
  | value _ => []
  | undecodable _ => ["UnicodeError", "ValueError"]
  | encoding (.refused ..) => ["ValueError"]
  | encoding (.badByte _) => ["UnicodeError", "ValueError"]
  | encoding _ => []
  | overflow _ => ["ArithmeticError"]
  | source _ => []
  | wrongType _ => []
  | noAttribute .. => []
  | linkLoop _ => []
  | runtime _ => []
  | recursion _ => ["RuntimeError"]
  | memory _ => []
  | foreign .. => []

/-- Failures that the system reports. -/
def isSystemFault : Fault → Bool
  | system _ => true
  | artifact (.system ..) => true
  | artifact (.noRoom _) => true
  | _ => false

/-- Faults that count as a wrong value: bytes that are no text are one of them. -/
def isValueFault : Fault → Bool
  | value _ => true
  | undecodable _ => true
  | encoding .nulInName => true
  | encoding (.refused ..) => true
  | encoding (.badByte _) => true
  | artifact (.outside _) => true
  | artifact .nulByte => true
  | _ => false

/-- Faults of a machine that has no room left to work in. -/
def isExhaustion : Fault → Bool
  | recursion _ => true
  | memory _ => true
  | artifact .tooDeep => true
  | artifact .tooManyLevels => true
  | _ => false

end Fault

/-- Directories lie too deep in each other. -/
def Fault.tooDeep : Fault := .artifact .tooDeep

/-- The state is kept when a step fails. -/
abbrev Act (σ : Type) := ExceptT Fault (StateM σ)

namespace Act

def run {σ α : Type} (act : Act σ α) (s : σ) : Except Fault α × σ := act s

def ofExcept {σ α : Type} (r : Except Fault α) : Act σ α := fun s => (r, s)

/-- Runs a step on a part of the state. -/
def within {σ τ α : Type} (get : σ → τ) (set : τ → σ → σ) (act : Act τ α) : Act σ α :=
  fun s =>
    let (r, t) := act.run (get s)
    (r, set t s)

end Act

end Worksheet
