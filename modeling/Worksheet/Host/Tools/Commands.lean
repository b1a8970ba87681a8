-- Tools that wait, send signals, and run other commands in another setting.
import Worksheet.Host.Program
import Worksheet.Host.Tools.Input
import Worksheet.Host.Tools.Printing
import Worksheet.Text.Split

namespace Worksheet.Host.Tools

open Text (Octets)

/-! ## Waiting -/

/-- A waiting time that never ends, for all that anybody can see. -/
def endless : Int := 1000000000000000000

/-- A duration in nanoseconds, with a letter for its unit. -/
def duration? (text : Octets) : Option Int :=
  let read := Floating.read .double text
  let unit : Option Nat := match read.rest with
    | [] => some 1
    | ['s'] => some 1
    | ['m'] => some 60
    | ['h'] => some 3600
    | ['d'] => some 86400
    | _ => none
  if read.rest.length = text.length then none
  else unit.bind fun unit =>
    match read.value with
    | .finite negative m e =>
      let (num, den) := Floating.fraction m e
      if negative && m ≠ 0 then none
      else some (min endless (((num * unit * 1000000000 + den - 1) / den : Nat) : Int))
    | .infinite negative => if negative then none else some endless
    | .nan _ => none

def sleep : Tool := fun i => do
  let o ← options (grammar "" []) i
  needOperands i o 1
  let wrong := o.operands.filter fun w => (duration? w).isNone
  wrong.forM fun w => complain i ("invalid time interval " ++ inQuotes w)
  if !wrong.isEmpty then advise i 1
  Task.call (.sleep ((o.operands.filterMap duration?).foldl (· + ·) 0))
  return 0

/-! ## Signals -/

/-- Sends a signal; the first operand may name it by its number or its name. -/
def kill : Tool := fun i => do
  let (name, targets) : Octets × List Octets := match i.words with
    | ['-', 's'] :: n :: rest => (n, rest)
    | ('-' :: n) :: rest => (n, rest)
    | rest => (word "TERM", rest)
  let short := if Text.startsWith (word "SIG") name then name.drop 3 else name
  match Signal.number? short with
  | none => fail i 1 ("invalid argument " ++ Octets.spelled (name.take 1))
  | some n =>
    return codeOf (← forEach (fun t => do
      let (negative, ds) : Bool × Octets := match t with
        | '-' :: ds => (true, ds)
        | ds => (false, ds)
      match digits? ds with
      | none =>
        complain i ("failed to parse argument: '" ++ t.spelled ++ "'")
        return false
      | some p =>
        match ← Task.call (.signal (if negative then -(p : Int) else p) n) with
        | .ok () => return true
        | .error e =>
          complain i ("(" ++ t.spelled ++ "): " ++ e.text)
          return false) targets)

/-! ## Finding commands -/

def defaultPath : Octets := word "/usr/local/sbin:/usr/local/bin:/usr/sbin:/usr/bin:/sbin:/bin"

/-- The places where a command can be: its own path, or its name in the directories of the
search path. -/
def candidates (environment : Environment) (name : Octets) : List Octets :=
  if name.contains '/' then [name]
  else (Text.split ':' ((environment.lookup (word "PATH")).getD defaultPath)).map fun d =>
    if d.isEmpty then name else d ++ '/' :: name

/-- Becomes the first program that can be found; comes back with the error if there is none. A
file that is no program is one of the shell. -/
def become (arguments : List Octets) (environment : Environment) : Errno → List Octets → Task Errno
  | e, [] => pure e
  | e, path :: rest => do
    match ← Task.exec path arguments environment with
    | .noEntry => become arguments environment e rest
    | .notDirectory => become arguments environment e rest
    | .notExecutable =>
      let shell := word "/bin/sh"
      Task.exec shell (shell :: path :: arguments.drop 1) environment
    | e' => become arguments environment (if e = .noEntry then e' else e) rest

/-- Becomes a command, or tells that it cannot. -/
def runCommand (i : Invocation) (doing : String) (environment : Environment) (words : List Octets) :
    Task Nat := do
  let e ← become words environment .noEntry (candidates environment (words.headD []))
  complain i (doing ++ e.text)
  return if e = .noEntry then 127 else 126

/-- Where a command can be found. -/
def which : Tool := fun i => do
  let letters := (i.words.takeWhile fun w => w.head? = some '-' && w ≠ ['-']).flatten
  match letters.find? fun c => c ≠ '-' && c ≠ 'a' && c ≠ 's' with
  | some c =>
    Task.errText ("Illegal option -" ++ Octets.spelled [c] ++ "\nUsage: /usr/bin/which [-as] args\n")
    return 2
  | none =>
    let names := i.words.dropWhile fun w => w.head? = some '-' && w ≠ ['-']
    let good ← forEach (fun name => do
      let found ← (candidates i.environment name).filterM fun path => do
        match ← Task.call (.examine path) with
        | .ok (.regular executable _) => return executable
        | _ => return false
      let shown := if letters.contains 'a' then found else found.take 1
      if !letters.contains 's' then put i 1 (unlines '\n' shown)
      return !found.isEmpty) names
    return codeOf (good && !names.isEmpty)

/-! ## Settings -/

/-- Runs a command that goes on when its terminal is closed. -/
def nohup : Tool := fun i => do
  let o ← options { grammar "" [] with operandsLast := true, code := 125 } i
  match o.operands with
  | [] => misuse i 125 "missing operand"
  | name :: _ =>
    Task.call (.react 1 .ignored)
    runCommand i ("failed to run command " ++ inPlainQuotes name ++ ": ") i.environment o.operands

/-- The exit code that an ending counts as. -/
def endingCode : Ending → Nat
  | .exited code => code
  | .killed number => 128 + number

/-- Runs a command in a session of its own. -/
def setsid : Tool := fun i => do
  let o ← options { grammar "cfw" [("ctty", "c"), ("fork", "f"), ("wait", "w")] with
    operandsLast := true } i
  match o.operands with
  | [] => misuse i 1 "no command specified"
  | name :: _ =>
    let run := runCommand i ("failed to execute " ++ name.spelled ++ ": ") i.environment o.operands
    let apart : Task Nat := do
      let _ ← Task.call .newSession
      run
    let first : Bool ← if o.has "f" then pure false else do
      match ← Task.call .newSession with
      | .ok () => pure true
      | .error _ => pure false
    if first then run
    else
      let child ← Task.fork apart.toProgram
      if o.has "w" then
        match ← Task.call (.wait child true) with
        | .ok ending => return endingCode ending
        | .error _ => return 1
      else return 0

/-- Runs a command with another priority, of which nothing can be seen. -/
def nice : Tool := fun i => do
  let words := match i.words with
    | ('-' :: c :: more) :: rest => if (c :: more).all Char.isDigit then rest else i.words
    | words => words
  let o ← options { grammar "n:" [("adjustment=", "n")] with operandsLast := true, code := 125 }
    { i with words := words }
  match o.value? "n" with
  | some n =>
    let ds := if n.head? = some '-' || n.head? = some '+' then n.drop 1 else n
    if (digits? ds).isNone then fail i 125 ("invalid adjustment " ++ inQuotes n)
  | none => pure ()
  match o.operands with
  | [] =>
    if !i.words.isEmpty then misuse i 125 "a command must be given with an adjustment"
    put i 125 (word "0\n")
    return 0
  | name :: _ => runCommand i (inQuotes name ++ ": ") i.environment o.operands

/-! ## Variables -/

def assignment? (w : Octets) : Option (Octets × Octets) :=
  if w.contains '=' then
    let name := w.takeWhile (· ≠ '=')
    some (name, w.drop (name.length + 1))
  else none

def setVariable (environment : Environment) (name value : Octets) : Environment :=
  if environment.any fun v => v.1 = name then
    environment.map fun v => if v.1 = name then (name, value) else v
  else environment ++ [(name, value)]

def environmentOf : Environment → List Octets → Environment × List Octets
  | e, [] => (e, [])
  | e, w :: rest =>
    match assignment? w with
    | some (name, value) => environmentOf (setVariable e name value) rest
    | none => (e, w :: rest)

/-- The words of a text, as a shell splits it. -/
def splitWords : Nat → Option Octets → Option Char → Octets → List Octets
  | 0, current, _, _ => current.toList.map List.reverse
  | n + 1, current, quote, text =>
    let add (c : Char) (rest : Octets) : List Octets :=
      splitWords n (some (c :: current.getD [])) quote rest
    match text, quote with
    | [], _ => current.toList.map List.reverse
    | c :: rest, some q =>
      if c = q then splitWords n (some (current.getD [])) none rest
      else match c, rest with
        | '\\', d :: more =>
          if d = '\\' || d = q then add d more
          else match if q = '"' then Printing.escapes.lookup d else none with
            | some code => add (Char.ofNat code) more
            | none => splitWords n (some (d :: '\\' :: current.getD [])) quote more
        | _, _ => add c rest
    | c :: rest, none =>
      if c = ' ' || (9 ≤ c.toNat && c.toNat ≤ 13) then
        (current.toList.map List.reverse) ++ splitWords n none none rest
      else if c = '\'' || c = '"' then splitWords n (some (current.getD [])) (some c) rest
      else match c, rest with
        | '\\', '_' :: more => (current.toList.map List.reverse) ++ splitWords n none none more
        | '\\', d :: more =>
          match Printing.escapes.lookup d with
          | some code => add (Char.ofNat code) more
          | none => add d more
        | _, _ => add c rest

/-- The words of the tool itself, with those of a text that stands for several words. -/
def unpacked : List Octets → List Octets
  | ['-', 'S'] :: text :: rest => splitWords (text.length + 1) none none text ++ rest
  | ('-' :: 'S' :: text) :: rest => splitWords (text.length + 1) none none text ++ rest
  | words => words

/-- Prints the environment, or runs a command in a changed one. -/
def env : Tool := fun i => do
  let o ← options { grammar "C:iu:0v" [("chdir=", "C"), ("ignore-environment", "i"), ("unset=", "u"),
    ("null", "0"), ("debug", "v")] with operandsLast := true, code := 125 }
    { i with words := unpacked i.words }
  let (fresh, words) := match o.operands with
    | ['-'] :: rest => (true, rest)
    | rest => (false, rest)
  let start := if fresh || o.has "i" then [] else i.environment
  match (o.valuesOf "u").find? fun n => n.isEmpty || n.contains '=' with
  | some n => fail i 125 ("cannot unset " ++ inQuotes n ++ ": " ++ Errno.invalidArgument.text)
  | none => pure ()
  let start := start.filter fun v => !(o.valuesOf "u").contains v.1
  let (environment, words) := environmentOf start words
  if o.has "0" && !words.isEmpty then misuse i 125 "cannot specify --null (-0) with command"
  match o.value? "C" with
  | some d =>
    if words.isEmpty then misuse i 125 "must specify command with --chdir (-C)"
    match ← Task.call (.enter d) with
    | .ok () => pure ()
    | .error e => fail i 125 ("cannot change directory to " ++ inPlainQuotes d ++ ": " ++ e.text)
  | none => pure ()
  let mark : Char := if o.has "0" then Char.ofNat 0 else '\n'
  match words with
  | [] =>
    put i 125 (environment.flatMap fun (k, v) => k ++ '=' :: v ++ [mark])
    return 0
  | name :: _ =>
    let code ← runCommand i (inQuotes name ++ ": ") environment words
    if code = 127 && name.any fun c => c = ' ' || (9 ≤ c.toNat && c.toNat ≤ 13) then
      complain i "use -[v]S to pass options in shebang lines"
    return code

/-! ## Limits of time -/

/-- How often a command is looked at that must not take too long, in nanoseconds. -/
def lookTime : Int := 1000000

/-- Waits for a child as long as it may take; nothing if it takes longer. -/
def awaitFor (child : Nat) : Nat → Int → Task (Option Ending)
  | 0, _ => pure none
  | n + 1, left => do
    match ← Task.call (.poll child) with
    | some ending => return some ending
    | none =>
      if left ≤ 0 then return none
      else
        let pause := min left lookTime
        Task.call (.sleep pause)
        awaitFor child n (left - pause)

/-- How a command is ended that takes too long: the signal, how much longer it may take after it
until it is killed, and what is told of. -/
structure Limiting where
  signal : Nat
  grace : Option Int
  group : Bool
  keepsCode : Bool
  telling : Bool

def sendTo (i : Invocation) (l : Limiting) (command : Octets) (child signal : Nat) : Task Unit := do
  if l.telling then
    complain i ("sending signal " ++ Signal.name signal ++ " to command " ++ inQuotes command)
  if l.group then
    Task.call (.react signal .ignored)
    let _ ← Task.call (.signal 0 signal)
  else
    let _ ← Task.call (.signal child signal)

/-- The ending of a command that has been told to end. -/
def awaitEnd (i : Invocation) (l : Limiting) (command : Octets) (child : Nat) : Task Ending := do
  let patient : Task Ending := do
    match ← Task.call (.wait child true) with
    | .ok ending => return ending
    | .error _ => return .exited 0
  match l.grace with
  | none => patient
  | some time =>
    match ← awaitFor child Task.limit time with
    | some ending => return ending
    | none =>
      sendTo i l command child 9
      patient

/-- Runs a command for a limited time. -/
def timeout : Tool := fun i => do
  let o ← options { grammar "fk:ps:v" [("foreground", "f"), ("kill-after=", "k"),
    ("preserve-status", "p"), ("signal=", "s"), ("verbose", "v")] with
    operandsLast := true, code := 125 } i
  let time (w : Octets) : Task Int := match duration? w with
    | some t => pure t
    | none => misuse i 125 ("invalid time interval " ++ inQuotes w)
  let grace ← (o.value? "k").mapM time
  let signal ← match o.value? "s" with
    | none => pure 15
    | some name =>
      let short := if Text.startsWith (word "SIG") name then name.drop 3 else name
      match Signal.number? short with
      | some n => pure n
      | none => misuse i 125 (inQuotes name ++ ": invalid signal")
  match o.operands with
  | limit :: command :: _ =>
    let allowed ← time limit
    let l : Limiting := ⟨signal, grace.bind fun g => if g = 0 then none else some g, !o.has "f",
      o.has "p", o.has "v"⟩
    if l.group then
      let _ ← Task.call .newSession
    let child ← Task.fork (Task.toProgram
      (runCommand i ("failed to run command " ++ inQuotes command ++ ": ") i.environment
        (o.operands.drop 1)))
    match ← awaitFor child Task.limit (if allowed = 0 then endless else allowed) with
    | some (.exited code) => return code
    | some (.killed number) =>
      let self : Nat ← Task.call .identity
      let _ ← Task.call (.signal self number)
      return 128 + number
    | none =>
      sendTo i l command child signal
      let ending ← awaitEnd i l command child
      return if l.keepsCode || ending = .killed 9 then endingCode ending else 124
  | _ => advise i 125

/-! ## Commands with words of the input -/

/-- The lines of the words of an input, each with its words (latest first), and what is wrong. -/
structure Gathering where
  lines : List (List Octets)
  line : List Octets
  current : Octets
  wrong : Option String

def Gathering.push (g : Gathering) : Gathering :=
  { g with line := g.current.reverse :: g.line, current := [] }

def Gathering.endLine (g : Gathering) : Gathering :=
  if g.line.isEmpty then g else { g with lines := g.line.reverse :: g.lines, line := [] }

/-- What stands before the next character: blanks, plain text, an opening quote or a backslash. -/
inductive Standing
  | blank
  | text
  | quoted (mark : Char)
  | escaped

/-- Gathers words; where each line is one word, blanks in it are kept. -/
def gather (whole : Bool) : Standing → Gathering → Octets → Gathering
  | .quoted mark, g, [] => { g.endLine with wrong := some (unmatched mark) }
  | _, g, [] => (if g.current.isEmpty then g else g.push).endLine
  | .blank, g, c :: rest =>
    if c = ' ' || (9 ≤ c.toNat && c.toNat ≤ 13) then gather whole .blank g rest
    else if c = '\\' then gather whole .escaped g rest
    else if c = '\'' || c = '"' then gather whole (.quoted c) g rest
    else gather whole .text { g with current := c :: g.current } rest
  | .text, g, c :: rest =>
    if c = '\n' then gather whole .blank g.push.endLine rest
    else if !whole && (c = ' ' || c = '\t') then gather whole .blank g.push rest
    else if c = '\\' then gather whole .escaped g rest
    else if c = '\'' || c = '"' then gather whole (.quoted c) g rest
    else gather whole .text { g with current := c :: g.current } rest
  | .quoted mark, g, c :: rest =>
    if c = '\n' then { g.endLine with wrong := some (unmatched mark) }
    else if c = mark then gather whole .text g rest
    else gather whole (.quoted mark) { g with current := c :: g.current } rest
  | .escaped, g, c :: rest => gather whole .text { g with current := c :: g.current } rest
where
  unmatched (mark : Char) : String :=
    "unmatched " ++ (if mark = '"' then "double" else "single") ++
      " quote; by default quotes are special to xargs unless you use the -0 option"

/-- What commands are given: how many words or lines at most, and how long they may be. -/
structure Packing where
  words : Option Nat
  lines : Option Nat
  size : Nat

/-- How much room words take. -/
def roomOf (words : List Octets) : Nat := total (words.map fun w => w.length + 1)

/-- Lines of words in packs (latest first), for commands of which the first words take so much
room. Nothing comes of a word that is too long. -/
def packs (p : Packing) (taken : Nat) :
    List (List Octets) → List Octets → (lines room : Nat) → List (List Octets) →
    List (List Octets) × Bool
  | done, current, _, _, [] =>
    ((if current.isEmpty then done else current.reverse :: done).reverse, true)
  | done, current, lines, room, [] :: rest =>
    if !current.isEmpty && p.lines.any fun n => n ≤ lines + 1 then
      packs p taken (current.reverse :: done) [] 0 taken rest
    else packs p taken done current (lines + 1) room rest
  | done, current, lines, room, (w :: ws) :: rest =>
    let room' := room + w.length + 1
    if p.size < taken + w.length + 1 then
      ((if current.isEmpty then done else current.reverse :: done).reverse, false)
    else if p.size < room' || p.words.any fun n => n ≤ current.length then
      packs p taken (current.reverse :: done) [w] 0 (taken + w.length + 1) (ws :: rest)
    else packs p taken done (w :: current) lines room' (ws :: rest)
termination_by _ _ _ _ lines => total (lines.map fun l => l.length + 1)
decreasing_by all_goals simp [total]; try omega

/-- Puts a text in the place of another one, wherever it stands. -/
def substituted (pattern text : Octets) : Nat → Octets → Octets
  | 0, rest => rest
  | _ + 1, [] => []
  | n + 1, c :: rest =>
    if !pattern.isEmpty && Text.startsWith pattern (c :: rest) then
      text ++ substituted pattern text n ((c :: rest).drop pattern.length)
    else c :: substituted pattern text n rest

/-- The descriptor through which a child tells that it could not become a command. -/
def reportDescriptor : Nat := 63

/-- Runs a command and waits for it; nothing if it could not be run. The input of the command is
empty. -/
def runApart (i : Invocation) (words : List Octets) : Task (Except Nat Ending) := do
  let (reading, writing) : Nat × Nat ← Task.call .pipe
  let child ← Task.fork (Task.toProgram do
    Task.call (.close reading)
    let _ ← Task.call (.duplicate writing reportDescriptor)
    Task.call (.close writing)
    Task.call (.close 0)
    let _ ← Task.call (.opened (word "/dev/null") .read)
    let code ← runCommand i (bare (words.headD []) ++ ": ") i.environment words
    let _ ← Task.write reportDescriptor [Char.ofNat code]
    return code)
  Task.call (.close writing)
  let report ← Task.readAll reading
  Task.call (.close reading)
  match ← Task.call (.wait child true), report with
  | _, code :: _ => return .error code.toNat
  | .ok ending, [] => return .ok ending
  | .error _, [] => return .ok (.exited 0)

/-- Runs commands one after the other; the exit code tells of the worst that has happened. -/
def runEach (i : Invocation) (telling : Bool) : Nat → List (List Octets) → Task Nat
  | code, [] => pure code
  | code, words :: rest => do
    if telling then Task.errText (" ".intercalate (words.map bare) ++ "\n")
    let name := (words.headD []).spelled
    match ← runApart i words with
    | .error code => return code
    | .ok (.killed number) => fail i 125 (name ++ ": terminated by signal " ++ toString number)
    | .ok (.exited 255) => fail i 124 (name ++ ": exited with status 255; aborting")
    | .ok (.exited 0) => runEach i telling code rest
    | .ok (.exited _) => runEach i telling 123 rest

/-- A number of an option, which has to be large enough. -/
def xargsNumber (i : Invocation) (o : Options) (key : String) : Task (Option Nat) := do
  match o.value? key with
  | none => return none
  | some text =>
    match digits? text with
    | none => misuse i 1 ("invalid number \"" ++ text.spelled ++ "\" for -" ++ key ++ " option")
    | some 0 => misuse i 1 ("value 0 for -" ++ key ++ " option should be >= 1")
    | some n => return some n

/-- The most room that a command may take. -/
def xargsRoom : Nat := 131072

/-- The mark between words that an option gives, where words have no quotes. -/
def wordMark (o : Options) : Option Char :=
  match o.lastOf ["0", "d"], o.value? "d" with
  | some "0", _ => some (Char.ofNat 0)
  | some "d", some text => some (match Printing.escape (text.drop 1) with
      | (c, _) => if text.head? = some '\\' && text.length > 1 then c else text.headD '\n')
  | _, _ => none

/-- Runs a command with words of the input. -/
def xargs : Tool := fun i => do
  let o ← options { grammar "0a:d:E:e::I:i::L:l::n:prs:tP:xo" [("null", "0"), ("arg-file=", "a"),
    ("delimiter=", "d"), ("eof?", "E"), ("replace?", "I"), ("max-lines?", "l"), ("max-args=", "n"),
    ("interactive", "p"), ("no-run-if-empty", "r"), ("max-chars=", "s"), ("verbose", "t"),
    ("max-procs=", "P"), ("exit", "x"), ("open-tty", "o")] with operandsLast := true } i
  let lines ← xargsNumber i o "L"
  let most ← xargsNumber i o "n"
  let size ← xargsNumber i o "s"
  let command := if o.operands.isEmpty then [word "echo"] else o.operands
  let braces : Octets := ['\x7b', '\x7d']
  let (most, lines, replaced) : Option Nat × Option Nat × Option Octets :=
    match o.lastOf ["n", "L", "l", "I", "i"] with
    | some "I" => (none, none, some ((o.value? "I").getD braces))
    | some "i" => (none, none, some ((o.value? "i").getD braces))
    | some "L" => (none, lines, none)
    | some "l" => (none, some (((o.value? "l").bind digits?).getD 1), none)
    | _ => (most, none, none)
  let text ← match o.value? "a" with
    | some name =>
      match ← readInput name with
      | .ok text => pure text
      | .error e => fail i 1 ("Cannot open input file " ++ inQuotes name ++ ": " ++ e.text)
    | none =>
      match ← readInput ['-'] with
      | .ok text => pure text
      | .error _ => pure []
  let gathered : Gathering := match wordMark o with
    | some mark => ⟨((plainLines mark text).map fun w => [w]).reverse, [], [], none⟩
    | none => gather replaced.isSome .blank ⟨[], [], [], none⟩ text
  let found := gathered.lines.reverse
  let found := match o.value? "E" with
    | some ending =>
      let words := found.flatten
      if (wordMark o).isNone && words.contains ending then
        (words.takeWhile (· ≠ ending)).map fun w => [w]
      else found
    | none => found
  let p : Packing := ⟨most, lines, min (size.getD xargsRoom) xargsRoom⟩
  let (commands, fits) : List (List Octets) × Bool := match replaced with
    | some pattern =>
      (found.map fun line =>
        let w := line.headD []
        command.take 1 ++ (command.drop 1).map fun c => substituted pattern w (c.length + 1) c, true)
    | none =>
      let (packed, fits) := packs p (roomOf command) [] [] 0 (roomOf command) found
      (packed.map fun ws => command ++ ws, fits)
  let once := commands.isEmpty && !o.has "r" && replaced.isNone && fits && gathered.wrong.isNone
  let code ← runEach i (o.has "t") 0 (if once then [command] else commands)
  if !fits then fail i 1 "argument line too long"
  match gathered.wrong with
  | some message => fail i 1 message
  | none => return code

end Worksheet.Host.Tools
