-- What a shell knows while it works, and how it tells of what goes wrong.
import Worksheet.Host.Program
import Worksheet.Host.Shell.Syntax
import Worksheet.Host.Tools.Condition

namespace Worksheet.Host.Shell

open Text (Octets)

structure Variable where
  value : Option Octets
  exported : Bool
  constant : Bool
  deriving Repr

/-- What runs in the background: its number, the processes that have not been waited for, how many
there were, the last of them, and how that one ended once it has. -/
structure Job where
  number : Nat
  processes : List Nat
  size : Nat
  last : Nat
  ending : Option Ending

/-- What is hidden while a function is at work: the value of a variable, or the options. -/
inductive Hidden
  | variable (name : Octets) (old : Option Variable)
  | options (old : List String)

/-- The state of a shell: its name, its arguments, variables, functions and short names of commands,
the code of the last command, the number of the process, the jobs in the background, what is done
on signals, signals that have come and not been acted on, the options, how many loops are at work,
the line, and the command that complaints are of. The flag `tested` says that a failure has its own
use here, and `unprinted` that something could not be printed. Beside these there are the code of
the last command whose output was taken, what is hidden by commands and how many functions are at
work, the code that an end without one has while a signal is acted on, the programs whose places
are known, where the reading of options stands among the arguments and in one of them, the
directory as it was reached, and the signals that have been ignored from the start or not. -/
structure State where
  name : Octets
  arguments : List Octets
  bindings : List (Octets × Variable)
  functions : List (Octets × Nat × Command)
  aliases : List (Octets × Octets)
  status : Nat
  process : Nat
  lastJob : Option Nat
  jobs : List Job
  traps : List (Nat × Octets)
  pending : List Nat
  options : List String
  loops : Nat
  line : Nat
  command : Option Octets
  tested : Bool
  unprinted : Bool
  substituted : Nat
  hidden : List (List Hidden)
  calls : Nat
  held : Option Nat
  located : List Octets
  optionIndex : Nat
  optionOffset : Nat
  directory : Octets
  deaf : List Nat
  known : List Nat

/-- Why all commands at work are given up: a failure, or the end of the shell. -/
inductive Stop
  | failed
  | ended
  deriving DecidableEq, Repr

abbrev Sh := ExceptT Stop (StateT State Task)

/-- How a command ends: the next one follows, or a loop or a function is left. A function may be
left with a code that is given for that. -/
inductive Flow
  | onward
  | leave (levels : Nat)
  | again (levels : Nat)
  | returned (given : Bool)
  deriving DecidableEq, Repr

def lift {α : Type} (t : Task α) : Sh α := fun s next => t fun a => next (.ok a, s)

def call (c : Call) : Sh c.Answer := lift (Task.call c)

/-- Carries something out; that it was given up is the answer then. -/
def attempt {α : Type} (act : Sh α) : Sh (Except Stop α) := fun s next =>
  act s fun (r, s) => next (.ok r, s)

/-- Carries something out, and then something else in any case. -/
def andFinally {α : Type} (act : Sh α) (after : Sh Unit) : Sh α := do
  let r ← attempt act
  after
  match r with
  | .ok a => return a
  | .error stop => throw stop

def word (s : String) : Octets := s.toList

/-- Where a message comes from: the name of the shell, the line, and the command at work. -/
def position (s : State) : String :=
  s.name.spelled ++ ": " ++ toString s.line ++ ": " ++
    (match s.command with
      | some c => c.spelled ++ ": "
      | none => "")

def complain (message : String) : Sh Unit := do
  let s ← get
  lift (Task.errText (position s ++ message ++ "\n"))

def setStatus (code : Nat) : Sh Unit := modify fun s => { s with status := code }

/-- Gives up on something that the shell cannot go on with. -/
def fatal {α : Type} (message : String) : Sh α := do
  complain message
  setStatus 2
  throw .failed

/-- Ends the shell. -/
def leaveShell {α : Type} (code : Nat) : Sh α := do
  setStatus code
  throw .ended

/-! ## Variables -/

def binding? (s : State) (name : Octets) : Option Variable := s.bindings.lookup name

def value? (s : State) (name : Octets) : Option Octets := (binding? s name).bind (·.value)

def setEntry (name : Octets) (v : Variable) : List (Octets × Variable) → List (Octets × Variable)
  | [] => [(name, v)]
  | (n, w) :: rest => if n = name then (n, v) :: rest else (n, w) :: setEntry name v rest

def numberIn (text : Octets) : Nat :=
  text.foldl (fun n c => 10 * n + (c.toNat - '0'.toNat)) 0

/-- A change of the search path makes the places of programs unknown, and one of the position among
the arguments starts the reading of options again. -/
def noteChange (name : Octets) (value : Option Octets) (s : State) : State :=
  if name = word "PATH" then { s with located := [] }
  else if name = word "OPTIND" then
    { s with optionIndex := max 1 (numberIn (value.getD [])), optionOffset := 0 }
  else s

def putVariable (name : Octets) (v : Variable) (s : State) : State :=
  noteChange name v.value { s with bindings := setEntry name v s.bindings }

def dropVariable (name : Octets) (s : State) : State :=
  noteChange name none { s with bindings := s.bindings.filter fun e => e.1 ≠ name }

/-- Gives a variable a value and perhaps marks it for programs; one that is constant keeps its
value. -/
def assignAs (exported : Bool) (name value : Octets) : Sh Unit := do
  if name = word "OPTIND" && !(value.all Char.isDigit && !value.isEmpty) then
    fatal ("Illegal number: " ++ value.spelled)
  let s ← get
  let exported := exported || s.options.contains "allexport"
  match binding? s name with
  | some v =>
    if v.constant then fatal (name.spelled ++ ": is read only")
    else set (putVariable name { v with value := some value, exported := v.exported || exported } s)
  | none => set (putVariable name ⟨some value, exported, false⟩ s)

def assign (name value : Octets) : Sh Unit := assignAs false name value

def addHidden (h : Hidden) (s : State) : State :=
  match s.hidden with
  | frame :: frames => { s with hidden := (h :: frame) :: frames }
  | [] => s

/-- The value of a variable from now on is one that hides the value until now. -/
def hide (name : Octets) : Sh Unit := modify fun s => addHidden (.variable name (binding? s name)) s

/-- The options from now on hide those until now. -/
def hideOptions : Sh Unit := modify fun s => addHidden (.options s.options) s

def unhide : List Hidden → State → State
  | [], s => s
  | .variable name (some v) :: rest, s => unhide rest (putVariable name v s)
  | .variable name none :: rest, s => unhide rest (dropVariable name s)
  | .options old :: rest, s => unhide rest { s with options := old }

/-- Carries something out, after which the values that it hides come back. -/
def withHiding {α : Type} (act : Sh α) : Sh α := do
  modify fun s => { s with hidden := [] :: s.hidden }
  andFinally act (modify fun s =>
    match s.hidden with
    | frame :: frames => unhide frame { s with hidden := frames }
    | [] => s)

/-- The variables that programs are given. -/
def environment (s : State) : Environment :=
  s.bindings.filterMap fun (name, v) =>
    if v.exported then v.value.map fun x => (name, x) else none

/-- The characters at which results are split. -/
def separators (s : State) : Octets := (value? s (word "IFS")).getD [' ', '\t', '\n']

/-- What stands between the arguments when they become one text. -/
def separator (s : State) : Octets :=
  match value? s (word "IFS") with
  | some ifs => ifs.take 1
  | none => [' ']

/-! ## Parameters -/

/-- The parameter that is a list. -/
def isList (name : Octets) : Bool := name = ['@'] || name = ['*']

/-- The options of the shell with their letters, as far as they have one. -/
def optionNames : List (String × Option Char) :=
  [("errexit", some 'e'), ("noglob", some 'f'), ("ignoreeof", some 'I'), ("interactive", some 'i'),
    ("monitor", some 'm'), ("noexec", some 'n'), ("stdin", some 's'), ("xtrace", some 'x'),
    ("verbose", some 'v'), ("vi", some 'V'), ("emacs", some 'E'), ("noclobber", some 'C'),
    ("allexport", some 'a'), ("notify", some 'b'), ("nounset", some 'u'),
    ("privileged", some 'p'), ("nolog", none), ("debug", none)]

/-- The letters of the options that are set, the last option first. -/
def shownOptions (s : State) : Octets :=
  optionNames.reverse.filterMap fun (name, letter) => if s.options.contains name then letter else none

/-- The value of a parameter that is a single text. -/
def parameter? (s : State) (name : Octets) : Option Octets :=
  match name with
  | ['#'] => some (Octets.ofNat s.arguments.length)
  | ['?'] => some (Octets.ofNat s.status)
  | ['$'] => some (Octets.ofNat s.process)
  | ['!'] => s.lastJob.map Octets.ofNat
  | ['-'] => some (shownOptions s)
  | ['@'] => some ((separator s).intercalate s.arguments)
  | ['*'] => some ((separator s).intercalate s.arguments)
  | name =>
    if name.all Char.isDigit then
      match numberIn name with
      | 0 => some s.name
      | n => s.arguments[n - 1]?
    else value? s name

end Worksheet.Host.Shell
