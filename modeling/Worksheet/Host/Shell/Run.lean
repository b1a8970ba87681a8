-- The carrying out of commands: those that need no other command, simple ones, the commands that run
-- others, and those that are made of others.
import Worksheet.Host.Shell.Lookup
import Worksheet.Host.Shell.Places
import Worksheet.Host.Shell.Redirections
import Worksheet.Host.Shell.Variables
import Worksheet.Host.Tools.Input

namespace Worksheet.Host.Shell

open Text (Octets)

/-! ## Commands of the shell itself -/

/-- Prints its arguments with their escapes carried out. -/
def echo : Builtin := fun words => do
  match words with
  | ['-', 'n'] :: rest =>
    let text := Printing.echo rest
    out (if text.getLast? = some '\n' then text.dropLast else text)
  | words => out (Printing.echo words)
  return 0

def printfComplaint : Printing.Complaint → String
  | .notNumeric a => a.spelled ++ ": expected numeric value"
  | .notAll a => a.spelled ++ ": not completely converted"
  | .outside a => a.spelled ++ ": Numerical result out of range"
  | .afterQuoted _ => ""

def printfObstacle : Printing.Obstacle → String
  | .unended => "missing format character"
  | .unknown directive => directive.spelled ++ ": invalid directive"
  | _ => ""

/-- Prints its arguments in a format. -/
def printf : Builtin := fun words => do
  let (_, words) ← letters "" "" words
  match words with
  | [] => fatal "usage: printf format [arg ...]"
  | format :: arguments =>
    let f := Printing.printf .builtin format arguments
    f.complaints.forM fun c => complain (printfComplaint c)
    out f.printed.reverse
    match f.obstacle with
    | some o =>
      complain (printfObstacle o)
      return 2
    | none => return if f.complaints.isEmpty then 0 else 1

/-- Tells the truth of a condition by its exit code. -/
def test (bracket : Bool) : Builtin := fun words => do
  let (code, complaint) ← lift (Condition.code bracket words)
  match complaint with
  | some message => fatal message
  | none => return code

/-- Tells of the time that has been spent, of which there is none to speak of. -/
def times : Builtin := fun _ => do
  out (word "0m0.000000s 0m0.000000s\n0m0.000000s 0m0.000000s\n")
  return 0

def builtins : List (String × Builtin) :=
  [(":", fun _ => pure 0), ("true", fun _ => pure 0), ("false", fun _ => pure 1), ("echo", echo),
    ("printf", printf), ("test", test false), ("[", test true), ("cd", changeDirectory),
    ("chdir", changeDirectory), ("pwd", tellDirectory), ("umask", umask), ("ulimit", ulimit),
    ("export", exportVariables), ("readonly", protectVariables), ("unset", unset),
    ("local", localize), ("set", setAll), ("shift", shift), ("getopts", getopts), ("read", read),
    ("alias", setAliases), ("unalias", unalias), ("hash", hash), ("type", describeAll),
    ("command", describeOne), ("kill", kill), ("wait", wait), ("jobs", tellJobs), ("fg", resume),
    ("bg", resume), ("trap", trap), ("times", times)]

/-- Commands of which arguments that are assignments are not split. -/
def assigningNames : List String := ["export", "local", "readonly"]

def isBuiltin (name : String) : Bool := plainNames.contains name || specialNames.contains name

/-! ## Programs -/

/-- Becomes the program of a file; one without a known format is a script. -/
def becomeFile (words : List Octets) (environment : Environment) (place : Octets) : Task Errno := do
  match ← Task.exec place words environment with
  | .notExecutable =>
    Task.exec (word "/bin/sh") (word "/bin/sh" :: place :: words.drop 1) environment
  | e => pure e

/-- Becomes the first program that there is at some places; comes back if there is none. -/
def becomeAmong (words : List Octets) (environment : Environment) :
    Errno → List Octets → Task Errno
  | e, [] => pure e
  | e, place :: rest => do
    let e' ← becomeFile words environment place
    becomeAmong words environment (if e' = .noEntry || e' = .notDirectory then e else e') rest

/-- Becomes a program; what is in the way is told of, and its code is the answer. -/
def become (places words : List Octets) : Sh Nat := do
  let s ← get
  let name := words.headD []
  let e ← lift (if name.contains '/' then becomeFile words (environment s) name
    else becomeAmong words (environment s) .noEntry places)
  complain (name.spelled ++ ": " ++ runReason e)
  let missing := e = .noEntry || e = .notDirectory || e = .nameTooLong || e = .tooManyLinks
  return if missing then 127 else 126

/-! ## Copies of the shell -/

/-- In a copy of the shell, signals that were caught have their usual effect again. -/
def forgetTraps : Sh Unit := do
  let s ← get
  (s.traps.filter fun t => !t.2.isEmpty && t.1 ≠ 0).forM fun t => react t.1 .usual
  set { s with traps := s.traps.filter fun t => t.2.isEmpty, jobs := [], pending := [], held := none }

/-- A command that runs in the background does not stop for the keyboard. -/
def detach : Sh Unit := do
  call (.react 2 .ignored)
  call (.react 3 .ignored)
  modify fun s => { s with known := 2 :: 3 :: s.known, deaf := 2 :: 3 :: s.deaf }

/-- The input of the first command that runs in the background is empty. -/
def emptyInput : Sh Unit := do
  match ← call (.opened (word "/dev/null") .read) with
  | .ok k => place k 0
  | .error _ => pure ()

def forkWork (work : Sh Nat) : Sh Nat := do
  let s ← get
  lift (Task.fork (work s fun r => .ended (match r.1 with
    | .ok code => code
    | .error _ => r.2.status)))

/-- A step of a pipeline takes its place between two pipes. -/
def standBetween (input : Option Nat) (ends : Option (Nat × Nat)) : Sh Unit := do
  match ends with
  | some (reading, _) => call (.close reading)
  | none => pure ()
  match input with
  | some k => place k 0
  | none => pure ()
  match ends with
  | some (_, writing) => place writing 1
  | none => pure ()

/-! ## Failures -/

/-- Carries out something where a failure has its own use, or where it has none. -/
def whileTested {α : Type} (tested : Bool) (act : Sh α) : Sh α := do
  let before := (← get).tested
  modify fun s => { s with tested := tested }
  andFinally act (modify fun s => { s with tested := before })

/-- With the option for it, a command that fails ends the shell. -/
def checked (flow : Flow) : Sh Flow := do
  let s ← get
  if s.status ≠ 0 && s.options.contains "errexit" && !s.tested then throw .ended
  else return flow

/-- Carries something out as a loop. -/
def inLoop {α : Type} (act : Sh α) : Sh α := do
  modify fun s => { s with loops := s.loops + 1 }
  andFinally act (modify fun s => { s with loops := s.loops - 1 })

/-- How many functions may be at work within each other. -/
def maxCalls : Nat := 1000

/-- Carries something out as a function with arguments. -/
def inFunction {α : Type} (arguments : List Octets) (act : Sh α) : Sh α := do
  let s ← get
  if maxCalls ≤ s.calls then
    fatal ("Maximum function recursion depth (" ++ toString maxCalls ++ ") reached")
  setArguments arguments
  modify fun s => { s with loops := 0, calls := s.calls + 1 }
  andFinally act (modify fun t =>
    { t with
      arguments := s.arguments, loops := s.loops, calls := s.calls,
      optionIndex := s.optionIndex, optionOffset := s.optionOffset })

/-- Carries out a command of the shell once it is known what it does. Its failure ends the shell
only if it is special. -/
def asBuiltin (name : Octets) (special : Bool) (act : Sh Flow) : Sh Flow := do
  let before := (← get).command
  modify fun s => { s with command := some name }
  let r ← attempt do
    let flow ← act
    if (← get).unprinted then
      complain (name.spelled ++ ": I/O error")
      modify fun s => { s with status := s.status ||| 1 }
    return flow
  modify fun s => { s with command := before, unprinted := false }
  match r with
  | .ok flow => return flow
  | .error .failed => if special then throw .failed else return .onward
  | .error stop => throw stop

/-! ## Words of a simple command -/

/-- The words of a command as far as they are expanded: those that have been passed over, those
that are left, and those that are still to be expanded; whether the standard search path counts,
and whether functions do not. -/
structure Expanded where
  passed : List Octets
  fields : List Octets
  left : List Word
  standard : Bool
  direct : Bool

/-- Expands words up to the first one that gives fields. -/
def fill (subst : Substitution) : List Word → Sh (List Octets × List Word)
  | [] => return ([], [])
  | w :: rest => do
    match ← fields subst w with
    | [] => fill subst rest
    | found => return (found, rest)

namespace Expanded

/-- Has a field to look at, if there is one. -/
def ready (subst : Substitution) (e : Expanded) : Sh Expanded := do
  if e.fields.isEmpty then
    let (fields, left) ← fill subst e.left
    return { e with fields := fields, left := left }
  else return e

/-- Passes over one field. -/
def pass (subst : Substitution) (e : Expanded) : Sh Expanded :=
  ready subst { e with passed := e.passed ++ e.fields.take 1, fields := e.fields.drop 1 }

/-- Passes over the options in front of a command that is to be run directly. The flag says whether
there is one. -/
def passOptions (subst : Substitution) : Nat → Expanded → Sh (Bool × Expanded)
  | 0, e => pure (false, e)
  | n + 1, e => do
    match e.fields with
    | [] => return (false, e)
    | ['-', '-'] :: _ =>
      let e ← pass subst e
      return (!e.fields.isEmpty, e)
    | ('-' :: c :: more) :: _ =>
      if (c :: more).all (· = 'p') then
        passOptions subst n { ← pass subst e with standard := true }
      else return (false, e)
    | _ => return (true, e)

/-- Passes over words that only ask for the command behind them. -/
def passCommands (subst : Substitution) : Nat → Expanded → Sh Expanded
  | 0, e => pure e
  | n + 1, e => do
    let isFunction := !e.direct && ((← get).functions.lookup (word "command")).isSome
    if e.fields.head? ≠ some (word "command") || isFunction then return e
    else
      let (found, next) ← passOptions subst Task.limit (← pass subst e)
      if found then passCommands subst n { next with direct := true }
      else
        let all := next.passed ++ next.fields
        return { next with passed := e.passed, fields := all.drop e.passed.length }

end Expanded

/-- What a command is. -/
inductive Meaning
  | nothing
  | builtin (special : Bool)
  | function (body : Command)
  | program

def meaningOf (s : State) (e : Expanded) : Meaning :=
  match e.fields with
  | [] => .nothing
  | name :: _ =>
    match if e.direct then none else s.functions.lookup name with
    | some (_, body) => .function body
    | none =>
      if isBuiltin name.spelled then
        .builtin (specialNames.contains name.spelled && e.passed.isEmpty)
      else .program

/-- The assignments of a special command stay, as do those without a command. -/
def Meaning.keepsValues : Meaning → Bool
  | .nothing => true
  | .builtin special => special
  | _ => false

/-! ## Signals that have come -/

/-- Signals that have come and not been acted on, each once. -/
def pendingSignals : Nat → Sh (List Nat)
  | 0 => return (← get).pending
  | n + 1 => do
    match ← call .caught with
    | none => return (← get).pending
    | some number =>
      modify fun s =>
        if s.pending.contains number then s else { s with pending := s.pending ++ [number] }
      pendingSignals n

/-- The lines that have been read when so much is left of a text, and what follows them. -/
def linesRead (text : Octets) (left : Nat) : Octets × Octets :=
  let read := text.take (text.length - left)
  let rest := text.drop read.length
  if read.isEmpty || read.getLast? = some '\n' then (read, rest)
  else
    let tail := (rest.takeWhile (· ≠ '\n')).length + 1
    (read ++ rest.take tail, rest.drop tail)

/-- The first lines of a text, and what follows them. -/
def firstLines : Nat → Octets → Octets × Octets
  | 0, text => ([], text)
  | n + 1, text =>
    let line := text.take ((text.takeWhile (· ≠ '\n')).length + 1)
    let (more, rest) := firstLines n (text.drop line.length)
    (line ++ more, rest)

/-- With the option for it, the lines of a script are shown when they have been read. -/
def reveal (lines : Octets) : Sh Unit := do
  if (← get).options.contains "verbose" then lift (Task.err lines)

mutual

/-- The output of a command, without line feeds at its end. -/
def substitute : Nat → Command → Sh Octets
  | 0, _ => fatal "too deep"
  | n + 1, c => do
    match c with
    | .nothing => return []
    | c => do
      let ((reading, writing) : Nat × Nat) ← call .pipe
      let process ← forkWork do
        forgetTraps
        call (.close reading)
        place writing 1
        modify fun s => { s with tested := false }
        let _ ← attempt (run n true c)
        finish n
      call (.close writing)
      let text ← lift (Task.readAll reading)
      call (.close reading)
      let code ← await process
      modify fun s => { s with substituted := code }
      let text := text.filter fun c => c ≠ Char.ofNat 0
      return (text.reverse.dropWhile (· = '\n')).reverse

/-- What is done when a shell ends; the exit code is the answer. -/
def finish : Nat → Sh Nat
  | 0 => fatal "too deep"
  | n + 1 => do
    let s ← get
    match s.traps.lookup 0 with
    | none => return s.status
    | some action =>
      set { s with
        traps := s.traps.filter fun t => t.1 ≠ 0, held := some s.status, tested := false }
      match ← attempt (evalText n false action) with
      | .ok _ => return s.status
      | .error _ => return (← get).status

/-- Acts on signals, the lowest number first. -/
def answerSignals : Nat → List Nat → Sh Flow
  | 0, _ => fatal "too deep"
  | _ + 1, [] => pure .onward
  | n + 1, signal :: rest => do
    let s ← get
    set { s with pending := s.pending.filter (· ≠ signal) }
    match s.traps.lookup signal with
    | none => answerSignals n rest
    | some action =>
      let code := s.held.getD s.status
      modify fun s => { s with held := some code }
      let flow ← whileTested false (evalText n false action)
      modify fun t => { t with held := s.held }
      match flow with
      | .returned true => pure ()
      | _ => setStatus code
      match flow with
      | .onward => answerSignals n rest
      | flow => return flow

/-- Does what is to be done on the signals that have come, unless something is just being left. -/
def notice : Nat → Flow → Sh Flow
  | 0, flow => pure flow
  | n + 1, flow => do
    match flow with
    | .onward =>
      let s ← get
      if s.traps.isEmpty then return .onward
      let signals ← pendingSignals Task.limit
      if signals.isEmpty then return .onward
      answerSignals n (signals.mergeSort fun a b => a ≤ b)
    | flow => return flow

-- Commands of the shell

/-- A command of the shell that runs others, or that leaves what is at work. -/
def control (name : String) : Nat → List Octets → Sh Flow
  | 0, _ => fatal "too deep"
  | n + 1, words => do
    let s ← get
    match name with
    | "exit" =>
      match words with
      | [] => leaveShell (s.held.getD s.status)
      | w :: _ => leaveShell (← countOf w)
    | "return" =>
      match words with
      | [] => return .returned false
      | w :: _ =>
        setStatus (← countOf w)
        return .returned true
    | "eval" =>
      if words.isEmpty then
        setStatus 0
        return .onward
      else evalText n false ([' '].intercalate words)
    | "." =>
      let (_, words) ← letters "" "" words
      match words with
      | [] =>
        setStatus 0
        return .onward
      | name :: _ => sourceFile n name
    | "exec" =>
      let (_, words) ← letters "" "" words
      if words.isEmpty then
        setStatus 0
        return .onward
      else leaveShell (← become (candidates (searchPath s) (words.headD [])) words)
    | name =>
      let levels ← match words with
        | [] => pure 1
        | w :: _ =>
          match ← countOf w with
          | 0 => fatal ("Illegal number: " ++ w.spelled)
          | k => pure k
      let k := min levels s.loops
      setStatus 0
      return if k = 0 then .onward else if name = "break" then .leave k else .again k

/-- Carries out the commands of a file. -/
def sourceFile : Nat → Octets → Sh Flow
  | 0, _ => fatal "too deep"
  | n + 1, name => do
    let s ← get
    let place ← if name.contains '/' then pure name else do
      match ← locateAmong .noEntry (candidates (searchPath s) name) with
      | .ok places => pure (places.headD name)
      | .error _ => fatal (name.spelled ++ ": not found")
    let text ← match ← lift (Tools.readInput place) with
      | .ok text => pure text
      | .error .isDirectory => pure []
      | .error e => fatal ("cannot open " ++ place.spelled ++ ": " ++ openReason e)
    modify fun s => { s with command := some place }
    match ← whileTested false (script n false false (some text) (.ofText text 1 s.aliases)) with
    | .returned _ => return .onward
    | flow => return flow

/-- Shows a command before it is carried out. -/
def trace (slot : Option Nat) : Nat → List Octets → Sh Unit
  | 0, _ => fatal "too deep"
  | n + 1, words => do
    let s ← get
    if s.options.contains "xtrace" then
      let text := (value? s (word "PS4")).getD []
      let mark ← match (Parser.bodyParts (Parser.depth text) []).run (.ofText text 1 s.aliases) with
        | .error _ => pure text
        | .ok (w, _) => do
          set { s with options := s.options.filter (· ≠ "xtrace") }
          let mark ← single (substitute n) .no w
          modify fun t => { t with options := s.options }
          pure mark
      match slot with
      | some k =>
        let _ ← lift (Task.write k (mark ++ [' '].intercalate words ++ ['\n']))
      | none => pure ()

/-- Sets variables for a command, or for good. The words of the assignments are the answer. -/
def setValues (hides exported : Bool) : Nat → List (Octets × Word) → Sh (List Octets)
  | 0, _ => fatal "too deep"
  | _ + 1, [] => pure []
  | n + 1, (name, w) :: rest => do
    let value ← single (substitute n) .each w
    if hides then hide name
    assignAs (hides || exported) name value
    return (name ++ '=' :: value) :: (← setValues hides exported n rest)

/-- Carries out a command whose words are known, under its redirections. -/
def dispatch : Nat → (final : Bool) → Meaning → Expanded → List Octets → Sh Flow
  | 0, _, _, _, _ => fatal "too deep"
  | n + 1, final, meaning, e, words => do
    let name := words.headD []
    let arguments := words.drop 1
    match meaning with
    | .nothing =>
      setStatus (← get).substituted
      return .onward
    | .builtin special =>
      asBuiltin name special do
        match builtins.lookup name.spelled with
        | some b =>
          setStatus (← b arguments)
          return .onward
        | none => control name.spelled n arguments
    | .function body =>
      match ← inFunction arguments (run n false body) with
      | .returned _ => return .onward
      | flow => return flow
    | .program =>
      let s ← get
      match ← locate (if e.standard then standardPath else searchPath s) name with
      | .error e =>
        complain (name.spelled ++ ": " ++ runReason e)
        setStatus 127
        return .onward
      | .ok places =>
        if final && s.traps.isEmpty then leaveShell (← become places words)
        else
          let process ← forkWork do
            forgetTraps
            become places words
          setStatus (← await process)
          return .onward

def simple : Nat → (final : Bool) → List (Octets × Word) → List Word → List Redirection → Sh Flow
  | 0, _, _, _, _ => fatal "too deep"
  | n + 1, final, assignments, words, rs => do
    let subst := substitute n
    modify fun s => { s with substituted := 0 }
    let start ← Expanded.ready subst ⟨[], [], words, false, false⟩
    let e ← start.passCommands subst (words.length + 1)
    let meaning := meaningOf (← get) e
    let name := e.fields.headD []
    let assigning := match meaning with
      | .builtin _ => assigningNames.contains name.spelled
      | _ => false
    let more ← e.left.mapM (argumentFields subst assigning)
    let words := e.fields ++ more.flatten
    let sources ← expandAll subst rs
    let (wrong, kept) ← redirectAll true sources []
    let isExec := match meaning with
      | .builtin _ => name = word "exec"
      | _ => false
    let work : Sh Flow := do
      match wrong with
      | some message =>
        complain message
        setStatus 2
        match meaning with
        | .builtin true => throw .failed
        | _ => return .onward
      | none =>
        let act : Sh Flow := do
          let exported := isExec && 1 < words.length
          let values ← setValues (!meaning.keepsValues) exported n assignments
          let slot := match kept.lookup 2 with
            | some slot => slot
            | none => some 2
          trace slot n (values ++ e.passed ++ words)
          dispatch n final meaning e words
        if meaning.keepsValues then act else withHiding act
    let flow ← andFinally work (if isExec then forget kept else giveBack kept)
    return flow

-- Commands that are made of others

/-- Starts the stages of a pipeline; each reads what the one before writes. -/
def startStages (detached : Bool) : Nat → (input : Option Nat) → List Command → Sh (List Nat)
  | 0, _, _ => fatal "too deep"
  | _ + 1, _, [] => pure []
  | n + 1, input, c :: rest => do
    let ends : Option (Nat × Nat) ← if rest.isEmpty then pure none else do
      let ends : Nat × Nat ← call .pipe
      pure (some ends)
    let process ← forkWork do
      forgetTraps
      if detached then
        detach
        if input.isNone then emptyInput
      standBetween input ends
      let _ ← attempt (run n true c)
      finish n
    match input with
    | some k => call (.close k)
    | none => pure ()
    match ends with
    | some (reading, writing) =>
      call (.close writing)
      return process :: (← startStages detached n (some reading) rest)
    | none => return [process]

/-- A loop; the code of its last turn becomes its own. -/
def loop (wanted : Bool) (test body : Command) : Nat → (last : Nat) → Sh Flow
  | 0, _ => fatal "too deep"
  | n + 1, last => do
    call .pause
    let leave (last : Nat) (flow : Flow) : Sh Flow := do
      setStatus last
      return flow
    match ← whileTested true (run n false test) with
    | .onward =>
      if ((← get).status = 0) = wanted then
        let flow ← run n false body
        let last := (← get).status
        match flow with
        | .onward => loop wanted test body n last
        | .leave k => leave last (if k ≤ 1 then .onward else .leave (k - 1))
        | .again k => if k ≤ 1 then loop wanted test body n last else leave last (.again (k - 1))
        | flow => leave last flow
      else leave last .onward
    | .leave k => leave last (if k ≤ 1 then .onward else .leave (k - 1))
    | .again k => if k ≤ 1 then loop wanted test body n last else leave last (.again (k - 1))
    | .returned true => return .returned true
    | flow => leave last flow

def eachOf (name : Octets) (body : Command) : Nat → (last : Nat) → List Octets → Sh Flow
  | 0, _, _ => fatal "too deep"
  | _ + 1, last, [] => do
    setStatus last
    return .onward
  | n + 1, _, w :: rest => do
    call .pause
    assign name w
    let flow ← run n false body
    let last := (← get).status
    match flow with
    | .onward => eachOf name body n last rest
    | .leave k => return if k ≤ 1 then .onward else .leave (k - 1)
    | .again k => if k ≤ 1 then eachOf name body n last rest else return .again (k - 1)
    | flow => return flow

/-- Looks for a pattern that covers a text. -/
def covered (text : Octets) : Nat → List Word → Sh Bool
  | 0, _ => fatal "too deep"
  | _ + 1, [] => pure false
  | n + 1, p :: rest => do
    if (← pattern (substitute n) p).covers text then return true else covered text n rest

/-- Carries out the first branch with a pattern that covers the text. -/
def choose (text : Octets) : Nat → (final : Bool) → List (List Word × Command) → Sh Flow
  | 0, _, _ => fatal "too deep"
  | _ + 1, _, [] => do
    setStatus 0
    return .onward
  | n + 1, final, (patterns, body) :: rest => do
    if ← covered text n patterns then
      match body with
      | .nothing =>
        setStatus 0
        return .onward
      | body => run n final body
    else choose text n final rest

/-- Carries out a command in a copy of the shell, under redirections that have been expanded. -/
def inCopy : Nat → (before : Sh Unit) → List (Nat × Source) → Command → Sh Nat
  | 0, _, _, _ => fatal "too deep"
  | n + 1, before, sources, c => forkWork do
    forgetTraps
    before
    let _ ← attempt do
      match (← redirectAll false sources []).1 with
      | some message => fatal message
      | none => run n true c
    finish n

/-- Carries out a command. A final one may take the place of the shell. -/
def run : Nat → (final : Bool) → Command → Sh Flow
  | 0, _, _ => fatal "too deep"
  | n + 1, final, c => do
    if (← get).options.contains "noexec" then return .onward
    let atLine (line : Nat) : Sh Unit := modify fun s => { s with line := line }
    match c with
    | .nothing => return .onward
    | c =>
    match ← notice n .onward with
    | .onward => do
      let flow ← match c with
        | .nothing => pure .onward
        | .simple line assignments words rs => do
          atLine line
          checked (← notice n (← simple n final assignments words rs))
        | .pipeline stages => do
          let processes ← startStages false n none stages
          let codes ← processes.mapM await
          setStatus (codes.getLast?.getD 0)
          checked (← notice n .onward)
        | .negated c => do
          match ← whileTested true (run n false c) with
          | .onward =>
            setStatus (if (← get).status = 0 then 1 else 0)
            pure .onward
          | flow => pure flow
        | .both a b => do
          match ← whileTested true (run n false a) with
          | .onward => if (← get).status = 0 then run n final b else pure .onward
          | flow => pure flow
        | .either a b => do
          match ← whileTested true (run n false a) with
          | .onward => if (← get).status ≠ 0 then run n final b else pure .onward
          | flow => pure flow
        | .sequence a b => do
          match ← run n false a with
          | .onward => run n final b
          | flow => pure flow
        | .background c => do
          let processes ← match c with
            | .pipeline stages => startStages true n none stages
            | .redirected line c rs => do
              atLine line
              let sources ← expandAll (substitute n) rs
              let process ← inCopy n (do
                detach
                emptyInput
                modify fun s => { s with tested := false }) sources c
              pure [process]
            | c => do
              let process ← inCopy n (do
                detach
                emptyInput
                modify fun s => { s with tested := false }) [] c
              pure [process]
          addJob processes
          setStatus 0
          pure .onward
        | .subshell line c rs => do
          atLine line
          let sources ← expandAll (substitute n) rs
          if final && (← get).traps.isEmpty then
            match (← redirectAll false sources []).1 with
            | some message => fatal message
            | none =>
              let _ ← run n true c
              throw .ended
          else
            let process ← inCopy n (pure ()) sources c
            setStatus (← await process)
            checked (← notice n .onward)
        | .redirected line c rs => do
          atLine line
          let sources ← expandAll (substitute n) rs
          let (wrong, kept) ← redirectAll true sources []
          match wrong with
          | some message =>
            complain message
            giveBack kept
            setStatus 2
            checked .onward
          | none => andFinally (run n false c) (giveBack kept)
        | .conditional test yes no => do
          match ← whileTested true (run n false test) with
          | .onward =>
            if (← get).status = 0 then run n final yes
            else match no with
              | .nothing =>
                setStatus 0
                pure .onward
              | no => run n final no
          | flow => pure flow
        | .loop wanted test body => inLoop (loop wanted test body n 0)
        | .each line name words body => do
          atLine line
          let items ← match words with
            | none => do pure (← get).arguments
            | some ws => do
              let found ← ws.mapM (fields (substitute n))
              pure found.flatten
          inLoop (eachOf name body n 0 items)
        | .choice line w branches => do
          atLine line
          let text ← single (substitute n) .first w
          choose text n final branches
        | .function line name body => do
          modify fun s => { s with
            functions := (name, line, body) :: s.functions.filter fun f => f.1 ≠ name }
          setStatus 0
          pure .onward
      notice n flow
    | flow => return flow

/-- Carries out a script command by command. Lines that are to be shown come with it. -/
def script : Nat → (final ran : Bool) → (shown : Option Octets) → Reading → Sh Flow
  | 0, _, _, _, _ => fatal "too deep"
  | n + 1, final, ran, shown, r => do
    let s ← get
    match Parser.complete.run { r with aliases := s.aliases } with
    | .error e =>
      match shown with
      | some text => reveal (firstLines (e.line + 1 - r.line) text).1
      | none => pure ()
      modify fun s => { s with line := e.line }
      fatal e.message
    | .ok (found, r) =>
      let (lines, shown) := match shown with
        | some text =>
          let (lines, rest) := linesRead text (if found.isNone then 0 else r.rest.length)
          (lines, some rest)
        | none => ([], none)
      reveal lines
      match found with
      | none =>
        if !ran then setStatus 0
        return .onward
      | some (c, atEnd) =>
        let isCommand := match c with
          | .nothing => false
          | _ => true
        match ← run n (final && atEnd) c with
        | .onward => script n final (ran || isCommand) shown r
        | flow => return flow

def evalText : Nat → (final : Bool) → Octets → Sh Flow
  | 0, _, _ => fatal "too deep"
  | n + 1, final, text => do script n final false none (.ofText text 1 (← get).aliases)

end

end Worksheet.Host.Shell
