-- The stream editor at work: lines are read one after the other, and commands change and print
-- them.
import Worksheet.Host.Tools.Edit.Reader

namespace Worksheet.Host.Tools.Edit

open Text (Octets)

/-! ## Replacing -/

def changed (c : CaseChange) (letter : Char) : Char :=
  match c with
  | .upper => letter.toUpper
  | .upperOne => letter.toUpper
  | .lower => letter.toLower
  | .lowerOne => letter.toLower
  | .usual => letter

/-- A text with all letters changed in one way, and the first one in another if that is wanted. -/
def recased (all : CaseChange) (one : Option CaseChange) : Octets → Octets
  | [] => []
  | c :: rest => changed (one.getD all) c :: rest.map (changed all)

/-- What a match is replaced by. A change for one letter (`own`) is for what stands right behind it;
only from a group that has found nothing it goes on to what follows (`late`). -/
def expand (f : Regex.Found) (all : CaseChange) (own late : Option CaseChange) :
    List Piece → Octets
  | [] => []
  | .change .upperOne :: rest => expand f all (some .upperOne) none rest
  | .change .lowerOne :: rest => expand f all (some .lowerOne) none rest
  | .change c :: rest => expand f c none none rest
  | .text t :: rest => recased all (own.orElse fun _ => late) t ++ expand f all none none rest
  | .group n :: rest =>
    match if n = 0 then f.text else (f.groups.lookup n).getD [] with
    | [] => expand f all none own rest
    | t => recased all (own.orElse fun _ => late) t ++ expand f all none none rest

/-- Replaces one match of a line, or all of them from one on. The pieces of the result are kept
latest first. An empty match right after another match does not count; the flag `fresh` says
that there is none before. -/
def replaceAfter (r : Regex) (s : Substitution) (o : Regex.Comparison) :
    Nat → Nat → List Octets → Option Char → Octets → (fresh hit : Bool) → List Octets × Bool
  | 0, _, done, _, rest, _, hit => (rest :: done, hit)
  | n + 1, nth, done, before, rest, fresh, hit =>
    match r.findAfter o [] before rest with
    | none => (rest :: done, hit)
    | some f =>
      if f.text.isEmpty && f.passed.isEmpty && !fresh then
        match f.rest with
        | [] => (done, hit)
        | c :: rest => replaceAfter r s o n nth ([c] :: done) (some c) rest true hit
      else
        let counts := nth ≤ 1
        let done := (if counts then expand f .usual none none s.pieces else f.text) ::
          f.passed :: done
        if counts && !s.everywhere then (f.rest :: done, true)
        else match f.text, f.rest with
          | [], [] => (done, hit || counts)
          | [], c :: rest =>
            replaceAfter r s o n (nth - 1) ([c] :: done) (some c) rest true (hit || counts)
          | text, rest =>
            replaceAfter r s o n (nth - 1) done (text.getLast?.orElse fun _ => f.before) rest
              false (hit || counts)

def replace (r : Regex) (s : Substitution) (o : Regex.Comparison) (line : Octets) : Octets × Bool :=
  let (done, hit) := replaceAfter r s o (2 * line.length + 2) s.first [] none line true false
  (done.reverse.flatten, hit)

/-- Characters of a text exchanged for others. -/
def exchangeAll (table : List (Octets × Octets)) : Nat → Octets → Octets
  | 0, _ => []
  | _ + 1, [] => []
  | n + 1, text =>
    let width := max (Quoting.characterAt text).1 1
    let c := text.take width
    (table.lookup c).getD c ++ exchangeAll table n (text.drop width)

/-! ## Showing -/

/-- A character in signs that can be seen. -/
def visible (c : Char) : Octets :=
  if c = '\\' then ['\\', '\\']
  else if 0x20 ≤ c.toNat && c.toNat < 0x7f then [c]
  else Quoting.escaped c

/-- A text in signs that can be seen, in lines that take no more than a width with the backslash at
their end. -/
def shownText (mark : Char) (width : Nat) : (column : Nat) → Octets → Octets
  | _, [] => ['$', mark]
  | column, c :: rest =>
    let t := visible c
    if width ≠ 0 && width ≤ column + t.length then
      '\\' :: mark :: t ++ shownText mark width t.length rest
    else t ++ shownText mark width (column + t.length) rest

/-! ## The state -/

/-- What waits to be printed at the end of a turn. -/
inductive Queued
  | text (text : Octets)
  | file (name : Octets)

/-- The lines of a command are not begun, being gone through up to a line if its number is known, or
gone through. -/
inductive Progress
  | idle
  | going (stop : Option Nat)
  | passed
  deriving DecidableEq

/-- An output: where it goes, and whether its last line has no end yet. -/
structure Sink where
  name : Octets
  descriptor : Nat
  unended : Bool

/-- How the editor has been asked to work. -/
structure Manner where
  quiet : Bool
  separate : Bool
  inPlace : Option Octets
  mark : Char
  width : Nat

/-- The line at work and whether it had an end, what is kept beside and whether that had one (a
line's missing end goes wherever the line goes), what waits, how far commands with several lines are
and were at first, whether a replacement was made, and the pattern that was used last; the inputs
that are left, the one that is read with the line read ahead, and the number of the line; what is
still to be written, and the other files that are written and read. -/
structure State where
  line : Octets
  ended : Bool
  kept : Octets
  keptEnded : Bool
  queue : List Queued
  progress : Array Progress
  atStart : Array Progress
  replaced : Bool
  lastPattern : Option Pattern
  files : List Octets
  name : Octets
  stream : Option Stream
  ahead : Option Octets
  number : Nat
  out : List Octets
  outSize : Nat
  unended : Bool
  sinks : List Sink
  sources : List (Octets × Stream)
  code : Nat

/-- The work of the editor: the way it is called, and its state. -/
abbrev Work := StateT State Task

def tell {α : Type} (t : Task α) : Work α := fun s => do return (← t, s)

def call (c : Call) : Work c.Answer := tell (Task.call c)

/-! ## Writing -/

def flush (i : Invocation) : Work Unit := do
  let s ← get
  if !s.out.isEmpty then
    set { s with out := [], outSize := 0 }
    match ← tell (Task.tryWrite 1 s.out.reverse.flatten) with
    | none => pure ()
    | some e =>
      tell (fail i 4 ("couldn't write " ++ toString s.outSize ++
        (if s.outSize = 1 then " item" else " items") ++ " to stdout: " ++ e.text))

/-- Adds to the output, which is written in large pieces. -/
def emit (i : Invocation) (m : Manner) (text : Octets) : Work Unit := do
  let s ← get
  set { s with out := text :: s.out, outSize := s.outSize + text.length }
  if m.inPlace.isNone && 4096 ≤ s.outSize + text.length then flush i

/-- A line that had no end gets it before anything else is printed. -/
def endLine (i : Invocation) (m : Manner) : Work Unit := do
  if (← get).unended then
    modify fun s => { s with unended := false }
    emit i m [m.mark]

/-- Prints a line with its end, if it is to have one. -/
def printLine (i : Invocation) (m : Manner) (ended : Bool) (text : Octets) : Work Unit := do
  endLine i m
  emit i m (if ended then text ++ [m.mark] else text)
  if !ended then modify fun s => { s with unended := true }

def printText (i : Invocation) (m : Manner) (text : Octets) : Work Unit := do
  if !text.isEmpty then
    endLine i m
    emit i m text

/-- Prints a line to a file of the script. -/
def printTo (i : Invocation) (m : Manner) (file : Octets) (ended : Bool) (text : Octets) :
    Work Unit := do
  if file = word "/dev/stdout" then printLine i m ended text
  else match (← get).sinks.find? fun k => k.name = file with
    | none => pure ()
    | some k =>
      let whole := (if k.unended then [m.mark] else []) ++ text ++ (if ended then [m.mark] else [])
      let _ ← tell (Task.write k.descriptor whole)
      modify fun s => { s with
        sinks := s.sinks.map fun l => if l.name = file then { l with unended := !ended } else l }

/-! ## Inputs -/

/-- The file that is edited in its place is written anew, and its old content kept where that is
asked for. -/
def finishFile (i : Invocation) (m : Manner) : Work Unit := do
  match m.inPlace with
  | none => pure ()
  | some suffix => do
    let s ← get
    let text := s.out.reverse.flatten
    set { s with out := [], outSize := 0, unended := false }
    let mode ← call (.mode true s.name)
    if !suffix.isEmpty then
      let last := shortName s.name
      let backup := if suffix.contains '*' then
          suffix.flatMap fun c => if c = '*' then last else [c]
        else last ++ suffix
      let directory := s.name.take (s.name.length - last.length)
      let path := if backup.contains '/' then backup else directory ++ backup
      let _ ← call (.rename s.name path)
    match ← call (.opened s.name .fresh) with
    | .error e => tell (fail i 4 ("couldn't open temporary file " ++ s.name.spelled ++ ": " ++ e.text))
    | .ok descriptor =>
      let _ ← tell (Task.write descriptor text)
      call (.close descriptor)
      let _ ← call (.setMode s.name (mode.toOption.getD Mode.ofFile))

/-- Leaves the input that is read. -/
def leaveInput (i : Invocation) (m : Manner) : Work Unit := do
  let s ← get
  match s.stream with
  | none => pure ()
  | some stream =>
    tell (closeInput s.name stream.descriptor)
    set { s with stream := none, ahead := none }
    finishFile i m

/-- Files that are read line by line are begun anew. -/
def forgetSources : Work Unit := do
  let s ← get
  set { s with sources := [] }
  s.sources.forM fun (name, stream) => tell (closeInput name stream.descriptor)

/-- Goes on to the next input that can be read; says whether there is one. -/
def enterInput (i : Invocation) (m : Manner) : Nat → Work Bool
  | 0 => pure false
  | n + 1 => do
    match (← get).files with
    | [] => return false
    | name :: rest => do
      modify fun s => { s with files := rest }
      let bad (message : String) (code : Nat) : Work Bool := do
        tell (complain i message)
        modify fun s => { s with code := code }
        enterInput i m n
      let kind ← call (.examine name)
      let isFile : Bool := match kind with
        | .ok (.regular ..) => true
        | _ => false
      match ← tell (openInput name) with
      | .error e => bad ("can't read " ++ name.spelled ++ ": " ++ e.text) 2
      | .ok descriptor =>
        match ← call (.read descriptor 0) with
        | .error .isDirectory =>
          tell (closeInput name descriptor)
          if m.inPlace.isSome then
            bad ("couldn't edit " ++ name.spelled ++ ": not a regular file") 4
          else bad ("read error on " ++ name.spelled ++ ": " ++ Errno.isDirectory.text) 2
        | .error e =>
          bad ("read error on " ++ (if name = ['-'] then "stdin" else name.spelled) ++ ": " ++ e.text) 4
        | .ok _ =>
          if m.inPlace.isSome && !isFile then
            bad ("couldn't edit " ++ name.spelled ++ ": not a regular file") 4
          else
            modify fun s => { s with
              name := name, stream := some (.ofDescriptor descriptor), ahead := none
              number := if m.separate then 0 else s.number
              progress := if m.separate then s.atStart else s.progress }
            if m.separate then
              modify fun s => { s with kept := [], keptEnded := true }
              forgetSources
            return true

/-- Reads one line ahead of the input at work; says whether there is one. -/
def lookAhead (m : Manner) : Work Bool := do
  let s ← get
  match s.ahead, s.stream with
  | some _, _ => return true
  | none, none => return false
  | none, some stream =>
    match ← tell (stream.line m.mark) with
    | .error _ => return false
    | .ok ([], stream) =>
      set { s with stream := some stream }
      return false
    | .ok (line, stream) =>
      set { s with stream := some stream, ahead := some line }
      return true

/-- Goes on to the next input with a line; says that there is none. -/
def passEmpty (i : Invocation) (m : Manner) : Nat → Work Bool
  | 0 => pure true
  | n + 1 => do
    leaveInput i m
    if ← enterInput i m ((← get).files.length + 1) then
      if ← lookAhead m then return false else passEmpty i m n
    else return true

/-- The next line of all inputs. -/
def nextLine (i : Invocation) (m : Manner) : Nat → Work (Option Octets)
  | 0 => pure none
  | n + 1 => do
    if ← lookAhead m then
      let s ← get
      set { s with ahead := none, number := s.number + 1 }
      return s.ahead
    else
      leaveInput i m
      if ← enterInput i m ((← get).files.length + 1) then nextLine i m n else return none

/-- No line comes after the one at work. Inputs without lines are passed over to see it. -/
def isLast (i : Invocation) (m : Manner) : Work Bool := do
  if ← lookAhead m then return false
  else if m.separate then return true
  else passEmpty i m ((← get).files.length + 2)

/-! ## What waits -/

/-- Copies what can be read to the output. -/
def copyFile (i : Invocation) (m : Manner) (name : Octets) : Work Unit := do
  let name := if name = word "/dev/stdin" then ['-'] else name
  match ← tell (readInput name) with
  | .error _ => pure ()
  | .ok text => printText i m text

def release (i : Invocation) (m : Manner) : Work Unit := do
  let waiting := (← get).queue.reverse
  modify fun s => { s with queue := [] }
  waiting.forM fun q => match q with
    | .text t => printText i m t
    | .file name => copyFile i m name

/-- Takes the next line as the one at work, or adds it behind that. -/
def readLine (i : Invocation) (m : Manner) (added : Bool) : Work Bool := do
  release i m
  modify fun s => { s with replaced := false }
  match ← nextLine i m ((← get).files.length + 2) with
  | none => return false
  | some line =>
    let ended := line.getLast? = some m.mark
    let text := chomp m.mark line
    modify fun s => { s with
      line := if added then s.line ++ m.mark :: text else text, ended := ended }
    return true

/-! ## Lines of commands -/

/-- A pattern with what is to be found. An empty pattern is the one that was used last. -/
def regexOf (i : Invocation) (m : Manner) (p : Pattern) : Work (Regex × Regex.Comparison) := do
  if p.regex.isSome then modify fun s => { s with lastPattern := some p }
  match (← get).lastPattern with
  | some ⟨some r, c⟩ => return (r, c)
  | _ =>
    if m.inPlace.isNone then flush i
    tell (fail i 1 "-e expression #1, char 0: no previous regular expression")

def meets (i : Invocation) (m : Manner) (a : Address) : Work Bool := do
  let s ← get
  match a with
  | .line n => return s.number = n
  | .step first width => return first ≤ s.number && (s.number - first) % width = 0
  | .last => isLast i m
  | .pattern p =>
    let (r, comparison) ← regexOf i m p
    return (r.find? comparison s.line).isSome

def setProgress (k : Nat) (p : Progress) : Work Unit :=
  modify fun s => { s with progress := s.progress.setIfInBounds k p }

/-- The line at work begins the lines of a command. Where they end with it they are over at once. -/
def begins (i : Invocation) (m : Manner) (k : Nat) (limit : Limit) : Work Unit := do
  let here := (← get).number
  let upTo (stop : Nat) : Work Unit :=
    setProgress k (if here < stop then .going (some stop) else .passed)
  match limit with
  | .address (.line stop) => upTo stop
  | .address .last => setProgress k (if ← isLast i m then .passed else .going none)
  | .address _ => setProgress k (.going none)
  | .later count => upTo (here + count)
  | .multiple n => upTo (if n = 0 then here else (here / n + 1) * n)

/-- The lines of a command can begin with the line at work. A number that has been passed over still
begins them, unless they have been gone through once, or their last line has been passed as well. -/
def canBegin (i : Invocation) (m : Manner) (p : Progress) (a : Address) (limit : Limit) :
    Work Bool := do
  let here := (← get).number
  match a, limit with
  | .line first, .address (.line stop) =>
    return here = first || p = .idle && first < here && here ≤ stop
  | .line first, _ => return here = first || p = .idle && first < here
  | a, _ => meets i m a

/-- The line at work is one of those that a command goes through. -/
def goesOn (i : Invocation) (m : Manner) (k : Nat) (stop : Option Nat) (limit : Limit) :
    Work Bool := do
  let here := (← get).number
  match limit, stop with
  | .address (.line stop), _ =>
    if stop ≤ here then setProgress k .passed
    return here ≤ stop
  | .address b, _ =>
    if ← meets i m b then setProgress k .passed
    return true
  | _, some stop =>
    if stop ≤ here then setProgress k .passed
    return true
  | _, none => return true

/-- A command is for the line at work. -/
def isFor (i : Invocation) (m : Manner) (k : Nat) (c : Command) : Work Bool := do
  match c.first, c.last with
  | none, _ => return true
  | some a, none => meets i m a
  | some a, some limit =>
    match (← get).progress.getD k .idle with
    | .going stop => goesOn i m k stop limit
    | p =>
      if ← canBegin i m p a limit then
        begins i m k limit
        return true
      else return false

/-! ## Commands -/

/-- What comes after a command: the next one, another one, the end of the turn with or without
printing the line, the same line once more, or the end of the work. -/
inductive After
  | onward
  | jump (place : Nat)
  | turnEnd
  | restart
  | finished
  | stop (code : Nat) (printing : Bool)

/-- The text of a line up to its first mark. -/
def firstPart (m : Manner) (line : Octets) : Octets := line.takeWhile (· ≠ m.mark)

/-- The text of a line up to its first mark, and whether it has an end: that mark, or its own. -/
def headOf (m : Manner) (s : State) : Octets × Bool :=
  (firstPart m s.line, s.line.contains m.mark || s.ended)

/-- A text that is printed at once ends with the mark in the place of its line feed. -/
def marked (m : Manner) (text : Octets) : Octets :=
  if m.mark ≠ '\n' && text.getLast? = some '\n' then text.dropLast ++ [m.mark] else text

def substitute (i : Invocation) (m : Manner) (s : Substitution) : Work Unit := do
  let (r, comparison) ← regexOf i m s.pattern
  let (line, hit) := replace r s comparison (← get).line
  if hit then
    modify fun t => { t with line := line, replaced := true }
    let ended := (← get).ended
    if s.prints then printLine i m ended line
    match s.file with
    | some file => printTo i m file ended line
    | none => pure ()

/-- A line of a file that is read line by line. -/
def lineOfFile (m : Manner) (name : Octets) : Work (Option Octets) := do
  let s ← get
  let stream ← match s.sources.lookup name with
    | some stream => pure (some stream)
    | none =>
      match ← tell (openInput (if name = word "/dev/stdin" then ['-'] else name)) with
      | .ok descriptor => pure (some (Stream.ofDescriptor descriptor))
      | .error _ => pure none
  match stream with
  | none => return none
  | some stream =>
    match ← tell (stream.line m.mark) with
    | .error _ => return none
    | .ok (line, stream) =>
      modify fun s => { s with sources := (name, stream) :: s.sources.filter fun e => e.1 ≠ name }
      return if line.isEmpty then none else some line

def carryOut (i : Invocation) (m : Manner) (k : Nat) (c : Command) : Work After := do
  let s ← get
  let wait (q : Queued) : Work After := do
    modify fun s => { s with queue := q :: s.queue }
    return .onward
  let setLine (line : Octets) : Work After := do
    modify fun s => { s with line := line }
    return .onward
  match c.action with
  | .block _ => return .onward
  | .blockEnd => return .onward
  | .label => return .onward
  | .nothing => return .onward
  | .substitute t =>
    substitute i m t
    return .onward
  | .exchange table => setLine (exchangeAll table s.line.length s.line)
  | .jump target => return .jump target
  | .jumpIfChanged target =>
    if s.replaced then
      modify fun s => { s with replaced := false }
      return .jump target
    else return .onward
  | .jumpUnlessChanged target =>
    if s.replaced then
      modify fun s => { s with replaced := false }
      return .onward
    else return .jump target
  | .append t => wait (.text t)
  | .insert t =>
    printText i m (marked m t)
    return .onward
  | .change t =>
    let going : Bool := match s.progress.getD k .idle with
      | .going _ => true
      | _ => false
    if !going || c.inverted then printText i m (marked m t)
    return .turnEnd
  | .delete => return .turnEnd
  | .deleteFirst =>
    if s.line.contains m.mark then
      modify fun s => { s with line := s.line.drop ((firstPart m s.line).length + 1) }
      return .restart
    else return .turnEnd
  | .print =>
    printLine i m s.ended s.line
    return .onward
  | .printFirst =>
    let (text, ended) := headOf m s
    printLine i m ended text
    return .onward
  | .next =>
    if ← isLast i m then return .finished
    if !m.quiet then printLine i m true (← get).line
    if ← readLine i m false then return .onward else return .stop 0 false
  | .nextAdded =>
    if ← isLast i m then return .finished
    if ← readLine i m true then return .onward else return .finished
  | .get =>
    modify fun s => { s with line := s.kept, ended := s.keptEnded }
    return .onward
  | .getAdded =>
    modify fun s => { s with line := s.line ++ m.mark :: s.kept, ended := s.keptEnded }
    return .onward
  | .hold =>
    modify fun s => { s with kept := s.line, keptEnded := s.ended }
    return .onward
  | .holdAdded =>
    modify fun s => { s with kept := s.kept ++ m.mark :: s.line, keptEnded := s.ended }
    return .onward
  | .swap =>
    modify fun s => { s with
      line := s.kept, ended := s.keptEnded, kept := s.line, keptEnded := s.ended }
    return .onward
  | .quit code => return .stop code true
  | .quitSilently code => return .stop code false
  | .number =>
    printText i m (Octets.ofNat s.number ++ [m.mark])
    return .onward
  | .fileName =>
    printText i m (s.name ++ [m.mark])
    return .onward
  | .show width =>
    let width := width.getD m.width
    printText i m (shownText m.mark width 0 s.line)
    return .onward
  | .empty => setLine []
  | .read file => wait (.file file)
  | .readLine file =>
    match ← lineOfFile m file with
    | some line => wait (.text line)
    | none => return .onward
  | .write file =>
    printTo i m file s.ended s.line
    return .onward
  | .writeFirst file =>
    let (text, ended) := headOf m s
    printTo i m file ended text
    return .onward
  | .run _ => return .onward

/-- Carries commands out from a place on. -/
def runFrom (i : Invocation) (m : Manner) (commands : Array Command) : Nat → Nat → Work After
  | 0, _ => pure (.stop 0 false)
  | n + 1, k => do
    match commands[k]? with
    | none => return .onward
    | some c =>
      if (← isFor i m k c) != c.inverted then
        match ← carryOut i m k c with
        | .onward => runFrom i m commands n (k + 1)
        | .jump place =>
          call .pause
          runFrom i m commands n (place + 1)
        | after => return after
      else match c.action with
        | .block stop => runFrom i m commands n (stop + 1)
        | _ => runFrom i m commands n (k + 1)

/-- The last line keeps its missing end. -/
def printWorked (i : Invocation) (m : Manner) : Work Unit := do
  let s ← get
  printLine i m s.ended s.line

/-- Goes through all lines. -/
def turns (i : Invocation) (m : Manner) (commands : Array Command) :
    Nat → (again : Bool) → Work Nat
  | 0, _ => pure 0
  | n + 1, again => do
    let there ← if again then do
        release i m
        pure true
      else readLine i m false
    if !there then return (← get).code
    match ← runFrom i m commands Task.limit 0 with
    | .stop code printing =>
      if printing then
        if !m.quiet then printWorked i m
        endLine i m
      release i m
      return code
    | .restart =>
      call .pause
      turns i m commands n true
    | .turnEnd => turns i m commands n false
    | _ =>
      if !m.quiet then printWorked i m
      turns i m commands n false

/-! ## The tool -/

/-- Opens the files that a script writes. -/
def openSinks (i : Invocation) : List Octets → Task (List Sink)
  | [] => pure []
  | name :: rest => do
    if name = word "/dev/stdout" then openSinks i rest
    else if name = word "/dev/stderr" then return ⟨name, 2, false⟩ :: (← openSinks i rest)
    else match ← Task.call (.opened name .fresh) with
      | .error e => fail i 4 ("couldn't open file " ++ name.spelled ++ ": " ++ e.text)
      | .ok descriptor => return ⟨name, descriptor, false⟩ :: (← openSinks i rest)

/-- Edits its inputs. -/
def edit (i : Invocation) (m : Manner) (script : Script) (sinks : List Sink)
    (files : List Octets) : Task Nat := do
  let m := { m with quiet := m.quiet || script.quiet }
  let fromStart : Array Progress := script.commands.map fun c => match c.first, c.last with
    | some (.line 0), some _ => .going none
    | _, _ => .idle
  let start : State := ⟨[], true, [], true, [], fromStart, fromStart, false, none, files, ['-'],
    none, none, 0, [], 0,
    false, sinks, [], 0⟩
  let work : Work Nat := do
    let code ← turns i m script.commands Task.limit false
    match (← get).stream with
    | some stream =>
      match m.inPlace with
      | none =>
        let s ← get
        tell { stream with held := (s.ahead.getD []) ++ stream.held }.release
      | some _ => leaveInput i m
    | none => pure ()
    if m.inPlace.isNone then flush i
    return code
  return (← work.run start).1

def grammarWords : List (String × String) :=
  [("quiet", "n"), ("silent", "n"), ("expression=", "e"), ("file=", "f"), ("in-place?", "i"),
    ("line-length=", "l"), ("regexp-extended", "E"), ("separate", "s"), ("unbuffered", "u"),
    ("null-data", "z"), ("zero-terminated", "z"), ("posix", "p"), ("debug", "debug"),
    ("sandbox", "sandbox"), ("follow-symlinks", "follow"), ("binary", "b")]

def usage : String :=
  "Usage: sed [OPTION]... \x7bscript-only-if-no-other-script\x7d [input-file]...\n"

/-- The parts of a script that a command line names, and the inputs. -/
def partsOf (i : Invocation) (o : Options) : Task (List (Origin × Octets) × List Octets) := do
  let named := o.chosen.reverse.filter fun c => c.1 = "e" || c.1 = "f"
  if named.isEmpty then
    match o.operands with
    | [] =>
      Task.errText usage
      Task.exit 1
    | text :: files => return ([(.expression 1, text)], files)
  else
    let expressions := (named.map fun c => if c.1 = "e" then 1 else 0).zipIdx
    let parts ← (named.zipIdx).mapM fun (c, k) => do
      let value := c.2.getD []
      if c.1 = "e" then
        let number := total ((expressions.take (k + 1)).map (·.1))
        return (Origin.expression number, value)
      else match ← readInput value with
        | .ok text => return (Origin.file value, text)
        | .error e => fail i 4 ("couldn't open file " ++ value.spelled ++ ": " ++ e.text)
    return (parts, o.operands)

end Worksheet.Host.Tools.Edit

namespace Worksheet.Host.Tools

open Text (Octets)

/-- Edits its inputs line by line. -/
def sed : Tool := fun i => do
  let o ← match readWords (grammar "bsnrzuEe:f:l:i::V:hs" Edit.grammarWords)
      (i.words.length + 1) ⟨[], []⟩ i.words with
    | .ok o => pure o
    | .error message => do
      complain i message
      Task.errText Edit.usage
      Task.exit 1
  let (parts, files) ← Edit.partsOf i o
  let width ← match o.value? "l" with
    | none => pure 70
    | some text =>
      match digits? text with
      | some n => pure n
      | none => fail i 1 ("invalid line length: " ++ text.spelled)
  let (script, written) := Edit.scriptOf (o.has "E" || o.has "r") parts
  let sinks ← Edit.openSinks i written
  match script with
  | .error (code, message) => fail i code message
  | .ok script =>
    let inPlace := if o.has "i" then some ((o.value? "i").getD []) else none
    if inPlace.isSome && files.isEmpty then fail i 4 "no input files"
    Edit.edit i ⟨o.has "n", o.has "s" || inPlace.isSome, inPlace, lineMark o, width⟩ script
      sinks (inputNames files)

end Worksheet.Host.Tools
