-- Programs of the system, as trees: what a program asks of the system, and for each answer how it
-- goes on.
import Worksheet.Disk.Errno
import Worksheet.Disk.Node
import Worksheet.Number.Double
import Worksheet.Text.Octets

namespace Worksheet.Host

open Text (Octets)

/-! ## Calls -/

/-- What a file is opened for. `fresh` empties the file, or makes it; `append` writes at its
end. -/
inductive Opening
  | read
  | fresh
  | append
  | both
  deriving DecidableEq, Repr

/-- What a signal does to a process. -/
inductive Reaction
  | usual
  | ignored
  | caught
  deriving DecidableEq, Repr

inductive FileKind
  | directory
  | regular (executable : Bool) (size : Nat)
  | device
  | link
  | fifo
  deriving DecidableEq, Repr

/-- What a process may use only so much of. -/
inductive Resource
  | time
  | fileSize
  | data
  | stack
  | core
  | memory
  | locked
  | processes
  | files
  | space
  | locks
  | priority
  deriving DecidableEq, Repr

/-- How much of a resource may be used, and how far that may be raised; nothing where there is no
end. -/
structure Limit where
  soft : Option Nat
  hard : Option Nat
  deriving DecidableEq, Repr

/-- How a process ended. -/
inductive Ending
  | exited (code : Nat)
  | killed (signal : Nat)
  deriving DecidableEq, Repr

/-- Descriptors are numbers, times are in nanoseconds. A file can be wound back, a pipe cannot. A
wait that is not patient ends when a signal has been caught, and `poll` does not wait. `fileOf`
gives the path of an opened file. `inspect` looks at a link itself, and `examine` at what it leads
to. `touch` makes a file that is missing, and `stamp` gives a file a time, or the present one.
`addName` gives a file a further name, and `names` tells all of them. -/
inductive Call
  | pause
  | read (descriptor count : Nat)
  | rewind (descriptor count : Nat)
  | write (descriptor : Nat) (data : Octets)
  | opened (path : Octets) (opening : Opening)
  | close (descriptor : Nat)
  | duplicate (source target : Nat)
  | pipe
  | wait (process : Nat) (patient : Bool)
  | poll (process : Nat)
  | sleep (duration : Int)
  | clock
  | signal (process : Int) (number : Nat)
  | react (number : Nat) (reaction : Reaction)
  | caught
  | reaction (number : Nat)
  | identity
  | parent
  | newSession
  | enter (path : Octets)
  | whereabouts
  | examine (path : Octets)
  | inspect (path : Octets)
  | modified (follow : Bool) (path : Octets)
  | resolve (path : Octets)
  | list (path : Octets)
  | makeDirectory (path : Octets)
  | makeLink (target path : Octets)
  | readLink (path : Octets)
  | makeFifo (path : Octets)
  | addName (source path : Octets)
  | names (follow : Bool) (path : Octets)
  | remove (path : Octets)
  | removeDirectory (path : Octets)
  | rename (source target : Octets)
  | touch (path : Octets)
  | stamp (follow : Bool) (path : Octets) (time : Option Int)
  | mode (follow : Bool) (path : Octets)
  | setMode (path : Octets) (mode : Mode)
  | mask
  | setMask (mask : Mode)
  | limit (resource : Resource)
  | setLimit (resource : Resource) (limit : Limit)
  | isOpen (descriptor : Nat)
  | fileOf (descriptor : Nat)
  deriving Repr

/-- What the system answers to a call. -/
def Call.Answer : Call → Type
  | read .. => Except Errno Octets
  | rewind .. => Bool
  | write .. => Except Errno Nat
  | opened .. => Except Errno Nat
  | duplicate .. => Except Errno Unit
  | pipe => Nat × Nat
  | wait .. => Except Errno Ending
  | poll _ => Option Ending
  | signal .. => Except Errno Unit
  | caught => Option Nat
  | clock => Int
  | reaction _ => Reaction
  | identity => Nat
  | parent => Nat
  | newSession => Except Errno Unit
  | enter _ => Except Errno Unit
  | whereabouts => Octets
  | examine _ => Except Errno FileKind
  | inspect _ => Except Errno FileKind
  | modified .. => Except Errno Int
  | resolve _ => Except Errno Octets
  | list _ => Except Errno (List Octets)
  | makeDirectory _ => Except Errno Unit
  | makeLink .. => Except Errno Unit
  | readLink _ => Except Errno Octets
  | makeFifo _ => Except Errno Unit
  | addName .. => Except Errno Unit
  | names .. => Except Errno (List Octets)
  | remove _ => Except Errno Unit
  | removeDirectory _ => Except Errno Unit
  | rename .. => Except Errno Unit
  | touch _ => Except Errno Unit
  | stamp .. => Except Errno Unit
  | mode .. => Except Errno Mode
  | setMode .. => Except Errno Unit
  | mask => Mode
  | limit _ => Limit
  | setLimit .. => Except Errno Unit
  | isOpen _ => Bool
  | fileOf _ => Option Octets
  | _ => Unit

/-! ## Programs -/

/-- The variables that a program is given. -/
abbrev Environment := List (Octets × Octets)

/-- A program ends with an exit code, asks something of the system, starts a copy of itself that
goes on as another program, or becomes the program of a file. -/
inductive Program
  | ended (code : Nat)
  | call (c : Call) (next : c.Answer → Program)
  | fork (child : Program) (next : Nat → Program)
  | exec (path : Octets) (arguments : List Octets) (environment : Environment)
      (failed : Errno → Program)

/-- A part of a program, which gives a value to what comes after it. -/
def Task (α : Type) := (α → Program) → Program

namespace Task

instance : Monad Task where
  pure a := fun next => next a
  bind t f := fun next => t fun a => f a next

def call (c : Call) : Task c.Answer := fun next => .call c next

/-- Ends the program, whatever comes after. -/
def exit {α : Type} (code : Nat) : Task α := fun _ => .ended code

def fork (child : Program) : Task Nat := fun next => .fork child next

/-- Becomes another program; comes back when that fails. -/
def exec (path : Octets) (arguments : List Octets) (environment : Environment) : Task Errno :=
  fun next => .exec path arguments environment next

/-- The program of a task that gives its exit code. -/
def toProgram (t : Task Nat) : Program := t .ended

/-! ## Reading and writing -/

/-- How many steps the longest loop of a program may take. -/
def limit : Nat := 1000000000

def chunkSize : Nat := 65536

def writeAfter (descriptor : Nat) : Nat → Octets → Task (Option Errno)
  | 0, _ => pure none
  | _ + 1, [] => pure none
  | n + 1, data => do
    match ← call (.write descriptor data) with
    | .ok count => writeAfter descriptor n (data.drop count)
    | .error e => pure (some e)

/-- Writes all of a text, or says why that cannot be done. -/
def tryWrite (descriptor : Nat) (data : Octets) : Task (Option Errno) :=
  writeAfter descriptor limit data

/-- Writes all of a text. The answer says whether that could be done. -/
def write (descriptor : Nat) (data : Octets) : Task Bool := do
  return (← tryWrite descriptor data).isNone

def readAfter (descriptor : Nat) : Nat → List Octets → Task Octets
  | 0, found => pure found.reverse.flatten
  | n + 1, found => do
    match ← call (.read descriptor chunkSize) with
    | .ok [] => pure found.reverse.flatten
    | .ok chunk => readAfter descriptor n (chunk :: found)
    | .error _ => pure found.reverse.flatten

/-- Everything up to the end of a stream. -/
def readAll (descriptor : Nat) : Task Octets := readAfter descriptor limit []

def out (data : Octets) : Task Bool := write 1 data

def err (data : Octets) : Task Unit := do
  let _ ← write 2 data

def errText (message : String) : Task Unit := err (Octets.ofString message)

end Task

/-! ## Facts about files that conditions ask for -/

namespace Facts

/-- A fact about what a name leads to, by its letter. -/
def holds (letter : Char) (kind : FileKind) (mode : Mode) : Bool :=
  match letter with
  | 'r' => mode.allows .read
  | 'w' => mode.allows .write
  | 'x' => mode.allows .run
  | 'u' => mode / 2048 % 2 = 1
  | 'g' => mode / 1024 % 2 = 1
  | 'k' => mode / 512 % 2 = 1
  | 'd' => kind = .directory
  | 'f' => (match kind with | .regular .. => true | _ => false)
  | 's' => (match kind with | .regular _ size => size ≠ 0 | .directory => true | _ => false)
  | 'c' => kind = .device
  | 'p' => kind = .fifo
  | c => "eOG".toList.contains c

/-- A fact about a name. Links are asked for by two letters, and are followed for all others. -/
def ask (letter : Char) (name : Octets) : Task Bool := do
  if letter = 'h' || letter = 'L' then
    return (← Task.call (.inspect name)).toOption == some .link
  else match ← Task.call (.examine name), ← Task.call (.mode true name) with
    | .ok kind, .ok mode => return holds letter kind mode
    | _, _ => return false

/-- The first file has been changed after the second one. -/
def isNewer (a b : Octets) : Task (Option Bool) := do
  match ← Task.call (.modified true a), ← Task.call (.modified true b) with
  | .ok x, .ok y => return some (y < x)
  | _, _ => return none

/-- Two names lead to one file. -/
def isSame (a b : Octets) : Task Bool := do
  match ← Task.call (.names true a), ← Task.call (.names true b) with
  | .ok x, .ok y => return x = y
  | _, _ => return false

end Facts

/-! ## Signals by number and by name -/

namespace Signal

def named : List (String × Nat) :=
  [("EXIT", 0), ("HUP", 1), ("INT", 2), ("QUIT", 3), ("ILL", 4), ("TRAP", 5), ("ABRT", 6),
    ("BUS", 7), ("FPE", 8), ("KILL", 9), ("USR1", 10), ("SEGV", 11), ("USR2", 12), ("PIPE", 13),
    ("ALRM", 14), ("TERM", 15), ("16", 16), ("CHLD", 17), ("CONT", 18), ("STOP", 19),
    ("TSTP", 20), ("TTIN", 21), ("TTOU", 22), ("URG", 23), ("XCPU", 24), ("XFSZ", 25),
    ("VTALRM", 26), ("PROF", 27), ("WINCH", 28), ("IO", 29), ("PWR", 30), ("SYS", 31),
    ("32", 32), ("33", 33), ("RTMIN", 34)]

/-- Signals above the named ones are counted from the lower or the upper end, whichever is near. -/
def numbers : List (String × Nat) :=
  named ++ ((List.range 15).map fun n => ("RTMIN+" ++ toString (n + 1), n + 35)) ++
    ((List.range 14).map fun n => ("RTMAX-" ++ toString (14 - n), n + 50)) ++ [("RTMAX", 64)]

/-- The greatest signal. -/
def greatest : Nat := 64

/-- A signal by its number or its name. -/
def number? (text : Octets) : Option Nat :=
  if text.all Char.isDigit && !text.isEmpty then
    let n := text.foldl (fun n c => 10 * n + (c.toNat - '0'.toNat)) 0
    if n ≤ greatest then some n else none
  else numbers.lookup (Octets.spelled (text.map Char.toUpper))

/-- The name of a signal. -/
def name (number : Nat) : String :=
  match numbers.find? fun e => e.2 = number with
  | some (name, _) => name
  | none => toString number

end Signal

end Worksheet.Host
