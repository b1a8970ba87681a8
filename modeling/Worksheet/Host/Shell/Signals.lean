-- Signals and processes as the shell speaks of them: names, exit codes, jobs, and waiting.
import Worksheet.Host.Program
import Worksheet.Host.Shell.State

namespace Worksheet.Host.Shell

open Text (Octets)

/-- A command of the shell works on its arguments and gives its exit code. -/
abbrev Builtin := List Octets → Sh Nat

/-- Prints something for a command of the shell. That it could not be printed is told when the
command is done. -/
def out (text : Octets) : Sh Unit := do
  if !(← lift (Task.out text)) then modify fun s => { s with unprinted := true }

/-- Prints something where complaints go, without saying where it comes from. -/
def tell (message : String) : Sh Unit := lift (Task.errText (message ++ "\n"))

/-- The options of a command of the shell: letters, some of which take a value, up to the first
word that is none. -/
def readLetters (known taking : List Char) :
    Nat → List (Char × Octets) → List Octets → Sh (List (Char × Octets) × List Octets)
  | 0, found, words => pure (found.reverse, words)
  | n + 1, found, words =>
    match words with
    | ['-', '-'] :: rest => pure (found.reverse, rest)
    | ('-' :: c :: more) :: rest => do
      if taking.contains c then
        match more, rest with
        | [], v :: rest => readLetters known taking n ((c, v) :: found) rest
        | [], [] => fatal ("No arg for -" ++ String.ofList [c] ++ " option")
        | v, rest => readLetters known taking n ((c, v) :: found) rest
      else if known.contains c then
        let rest := if more.isEmpty then rest else ('-' :: more) :: rest
        readLetters known taking n ((c, []) :: found) rest
      else fatal ("Illegal option -" ++ String.ofList [c])
    | words => pure (found.reverse, words)

def letters (known taking : String) (words : List Octets) :
    Sh (List (Char × Octets) × List Octets) :=
  readLetters known.toList taking.toList (total (words.map List.length) + words.length + 1) [] words

/-- A whole number that is not negative and fits into a word. -/
def count? (text : Octets) : Option Nat :=
  match Condition.whole? text with
  | some n => if 0 ≤ n && n < 2147483648 then some n.toNat else none
  | none => none

def countOf (text : Octets) : Sh Nat := do
  match count? text with
  | some n => return n
  | none => fatal ("Illegal number: " ++ text.spelled)

/-! ## Endings -/

/-- What is said of a command that a signal has killed; two signals are passed over. -/
def deathNotices : List (Nat × String) :=
  [(1, "Hangup"), (3, "Quit"), (4, "Illegal instruction"), (5, "Trace/breakpoint trap"),
    (6, "Aborted"), (7, "Bus error"), (8, "Floating point exception"), (9, "Killed"),
    (10, "User defined signal 1"), (11, "Segmentation fault"), (12, "User defined signal 2"),
    (14, "Alarm clock"), (15, "Terminated"), (16, "Stack fault"),
    (24, "CPU time limit exceeded"), (25, "File size limit exceeded"),
    (26, "Virtual timer expired"), (27, "Profiling timer expired"), (29, "I/O possible"),
    (30, "Power failure"), (31, "Bad system call")] ++
  (List.range 31).map fun n => (n + 34, "Real-time signal " ++ toString n)

/-- The exit code that an ending counts as. -/
def codeOf : Ending → Nat
  | .exited code => code
  | .killed number => 128 + number

/-- The exit code of a command that has ended; its death by a signal is told of. -/
def tellEnding (ending : Ending) : Sh Nat := do
  match ending with
  | .killed number =>
    match deathNotices.lookup number with
    | some notice => tell notice
    | none => pure ()
  | .exited _ => pure ()
  return codeOf ending

/-- Waits for a command. -/
def await (process : Nat) : Sh Nat := do
  match ← call (.wait process true) with
  | .error _ => return 127
  | .ok ending => tellEnding ending

/-! ## Jobs -/

/-- The lowest number that no job has. -/
def freeJobNumber (jobs : List Job) : Nat :=
  ((List.range (jobs.length + 1)).find? fun n => !jobs.any fun j => j.number = n + 1).getD 0 + 1

/-- Takes note of what has been started in the background. -/
def addJob (processes : List Nat) : Sh Unit :=
  modify fun s =>
    let last := processes.getLast?.getD 0
    { s with
      lastJob := some last
      jobs := s.jobs ++ [⟨freeJobNumber s.jobs, processes, processes.length, last, none⟩] }

/-- Takes note of the end of a process. -/
def noteEnding (process : Nat) (ending : Ending) : Sh Unit :=
  modify fun s => { s with
    jobs := s.jobs.map fun j =>
      { j with
        processes := j.processes.filter (· ≠ process)
        ending := if j.last = process then some ending else j.ending } }

def dropJob (number : Nat) : Sh Unit :=
  modify fun s => { s with jobs := s.jobs.filter fun j => j.number ≠ number }

def job? (number : Nat) : Sh (Option Job) := do
  return (← get).jobs.find? fun j => j.number = number

/-- A job by a percent sign with its number or a sign for a recent one, or by its last process. -/
def jobNamed? (s : State) (name : Octets) : Option Job :=
  match name with
  | ['%'] => s.jobs.getLast?
  | ['%', '%'] => s.jobs.getLast?
  | ['%', '+'] => s.jobs.getLast?
  | ['%', '-'] => s.jobs.dropLast.getLast?
  | '%' :: number =>
    if number.all Char.isDigit then s.jobs.find? fun j => j.number = numberIn number else none
  | name =>
    match count? name with
    | some n => s.jobs.find? fun j => j.last = n
    | none => none

/-- The code of a signal that has ended a wait; the signal is acted on later. -/
def interruption : Sh Nat := do
  match ← call .caught with
  | none => return 127
  | some number =>
    modify fun s => { s with pending := s.pending ++ [number] }
    return 128 + number

/-- Waits for the processes of a job; a signal that is caught ends the waiting, and its code is the
answer. -/
def waitForAll : List Nat → Sh (Option Nat)
  | [] => pure none
  | process :: rest => do
    match ← call (.wait process false) with
    | .error .interrupted => return some (← interruption)
    | .error _ =>
      noteEnding process (.exited 127)
      waitForAll rest
    | .ok ending =>
      noteEnding process ending
      waitForAll rest

/-- Waits for all that runs in the background. -/
def waitForJobs : List Job → Sh Nat
  | [] => return 0
  | j :: rest => do
    match ← waitForAll j.processes with
    | some code => return code
    | none =>
      dropJob j.number
      waitForJobs rest

/-- Waits for jobs that are named, one after the other. -/
def waitForEach (code : Nat) : List Octets → Sh Nat
  | [] => return code
  | w :: rest => do
    match jobNamed? (← get) w with
    | none =>
      if w.head? = some '%' then fatal ("No such job: " ++ w.spelled)
      else
        let _ ← countOf w
        waitForEach 127 rest
    | some j =>
      match ← waitForAll j.processes with
      | some code => return code
      | none =>
        let ending := ((← job? j.number).bind (·.ending)).getD (.exited 127)
        let code ← if j.processes.isEmpty then pure (codeOf ending) else tellEnding ending
        waitForEach code rest

/-- Waits for the named jobs, or for all that run in the background. The codes of jobs that have
ended are kept. -/
def wait : Builtin := fun words => do
  let (_, words) ← letters "" "" words
  if words.isEmpty then waitForJobs (← get).jobs else waitForEach 0 words

/-- Takes note of all processes in the background that have ended. -/
def pollJobs : Sh Unit := do
  (← get).jobs.forM fun j => j.processes.forM fun process => do
    match ← call (.poll process) with
    | some ending => noteEnding process ending
    | none => pure ()

/-- What is said of the state of a job. -/
def jobState (j : Job) : String :=
  match j.processes, j.ending with
  | [], some (.exited 0) => "Done"
  | [], some (.exited code) => "Done(" ++ toString code ++ ")"
  | [], some (.killed number) => (deathNotices.lookup number).getD "Killed"
  | _, _ => "Running"

def jobLine (sign : String) (j : Job) : String :=
  let start := "[" ++ toString j.number ++ "] " ++ sign ++ " " ++ jobState j
  start ++ String.ofList (List.replicate (max 1 (33 - start.length)) ' ') ++
    String.join (List.replicate (j.size - 1) " | ") ++ "\n"

/-- Tells of the jobs, the latest first; those that are done are told of once. -/
def tellJobs : Builtin := fun words => do
  let _ ← letters "lp" "" words
  pollJobs
  let jobs := (← get).jobs.reverse
  jobs.zipIdx.forM fun (j, i) => do
    out (Octets.ofString (jobLine (if i = 0 then "+" else if i = 1 then "-" else " ") j))
    if j.processes.isEmpty then dropJob j.number
  return 0

/-- Without control of jobs none can be brought to the front or sent back. -/
def resume : Builtin := fun words => do
  let s ← get
  match words with
  | [] =>
    match s.jobs.getLast? with
    | none => fatal "No current job"
    | some j => fatal ("job " ++ toString j.number ++ " not created under job control")
  | w :: _ =>
    match jobNamed? s w with
    | none => fatal ("No such job: " ++ w.spelled)
    | some _ => fatal ("job " ++ w.spelled ++ " not created under job control")

/-! ## Sending -/

/-- The processes that a word names: a process, a group of them behind a sign, or a job. -/
def targetOf (t : Octets) : Sh Int := do
  match t with
  | '%' :: _ =>
    match jobNamed? (← get) t with
    | some j => return -((j.processes.headD j.last : Nat) : Int)
    | none => fatal ("No such job: " ++ t.spelled)
  | '-' :: group => return -((← countOf group : Nat) : Int)
  | t => return ((← countOf t : Nat) : Int)

/-- Sends a signal to processes, one by one, up to the first word that names none. -/
def sendTo (number : Nat) (code : Nat) : List Octets → Sh Nat
  | [] => return code
  | t :: rest => do
    match ← call (.signal (← targetOf t) number) with
    | .ok () => sendTo number code rest
    | .error e =>
      complain (e.text ++ "\n")
      sendTo number 1 rest

def killUsage : String :=
  "Usage: kill [-s sigspec | -signum | -sigspec] [pid | job]... or\nkill -l [exitstatus]"

/-- The name of the signal that a number or an exit code tells of. -/
def nameSignal (text : Octets) : Sh Nat := do
  match count? text with
  | none => fatal ("Illegal number: " ++ text.spelled)
  | some n =>
    let number := if 128 < n then n - 128 else n
    if 0 < number && number ≤ 64 then
      out (Octets.ofString (Signal.name number ++ "\n"))
      return 0
    else fatal ("invalid signal number or exit status: " ++ text.spelled)

/-- Sends signals, or tells their names. -/
def kill : Builtin := fun words => do
  let named (name : Octets) : Sh Nat := do
    match Signal.number? name with
    | some number => return number
    | none => fatal ("invalid signal number or name: " ++ name.spelled)
  match words with
  | [] => fatal killUsage
  | ('-' :: name) :: rest =>
    match Signal.number? name with
    | some number => if rest.isEmpty then fatal killUsage else sendTo number 0 rest
    | none =>
      let (options, targets) ← letters "l" "s" words
      let number ← match (options.filter fun o => o.1 = 's').getLast? with
        | some (_, name) => named name
        | none => pure 15
      if options.any fun o => o.1 = 'l' then
        match targets with
        | [] =>
          let names := (Signal.numbers.drop 1).map fun (name, _) => name ++ "\n"
          out (Octets.ofString ("0\n" ++ String.join names))
          return 0
        | w :: _ => nameSignal w
      else if targets.isEmpty then fatal killUsage
      else sendTo number 0 targets
  | words => sendTo 15 0 words

/-! ## Traps -/

/-- A text between quotes, as the shell can read it again. -/
def quoteAfter : Nat → Octets → Octets
  | 0, _ => []
  | n + 1, text =>
    let plain := text.takeWhile (· ≠ '\'')
    let rest := text.drop plain.length
    let marks := rest.takeWhile (· = '\'')
    let rest := rest.drop marks.length
    '\'' :: plain ++ '\'' ::
      (if marks.isEmpty then [] else '"' :: marks ++ '"' ::
        (if rest.isEmpty then [] else quoteAfter n rest))

def quote (text : Octets) : Octets := quoteAfter (text.length + 1) text

/-- What is done on signals, as commands that set it. -/
def tellTraps : Sh Unit := do
  let traps := (← get).traps.mergeSort fun a b => a.1 ≤ b.1
  out (traps.flatMap fun (number, action) =>
    word "trap -- " ++ quote action ++ ' ' :: Octets.ofString (Signal.name number) ++ ['\n'])

/-- Sets the reaction to a signal, unless it has been ignored from the start. -/
def react (number : Nat) (r : Reaction) : Sh Unit := do
  let s ← get
  if !s.known.contains number then
    let first : Reaction ← call (.reaction number)
    modify fun s => { s with
      known := number :: s.known
      deaf := if first = .ignored then number :: s.deaf else s.deaf }
  if !(← get).deaf.contains number then call (.react number r)

/-- Sets what is done on one signal after the other, up to a word that names none. -/
def setTraps (action : Option Octets) : List Octets → Sh Nat
  | [] => return 0
  | t :: rest => do
    match Signal.number? t with
    | none =>
      tell ("trap: " ++ t.spelled ++ ": bad trap")
      return 1
    | some n =>
      modify fun s => { s with traps := s.traps.filter fun e => e.1 ≠ n }
      match action with
      | none => if n ≠ 0 then react n .usual
      | some text =>
        modify fun s => { s with traps := s.traps ++ [(n, text)] }
        if n ≠ 0 then react n (if text.isEmpty then .ignored else .caught)
      setTraps action rest

/-- Sets what is done on signals; an empty action ignores them. -/
def trap : Builtin := fun words => do
  let (_, words) ← letters "" "" words
  match words with
  | [] =>
    tellTraps
    return 0
  | [w] => setTraps none [w]
  | w :: rest =>
    if w.all Char.isDigit && (Signal.number? w).isSome then setTraps none (w :: rest)
    else setTraps (if w = ['-'] then none else some w) rest

end Worksheet.Host.Shell
