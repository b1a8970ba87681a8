-- Scripts of the stream editor as they are written.
import Worksheet.Host.Tools.Edit.Command
import Worksheet.Host.Tools.Input

namespace Worksheet.Host.Tools.Edit

open Text (Octets)

/-! ## Places -/

/-- Where a script stands: on the command line, or in a file. -/
inductive Origin
  | expression (number : Nat)
  | file (name : Octets)

/-- A jump whose label is still to be found. -/
structure Pending where
  place : Nat
  label : Octets

/-- What is left of a part of the script, how many characters and lines have been read, the commands
so far (latest first), the blocks that are open, the labels and the jumps to them, the text of the
last command that has not ended, whether nothing is printed of itself, and the files that commands
write. -/
structure Source where
  rest : Octets
  taken : Nat
  line : Nat
  origin : Origin
  first : Bool
  extended : Bool
  commands : List Command
  blocks : List Nat
  labels : List (Octets × Nat)
  jumps : List Pending
  text : Option Octets
  quiet : Bool
  written : List Octets

/-- The way through a script. The files that a script writes are known also if it turns out to be
wrong further on. -/
abbrev Reader := ExceptT String (StateM Source)

/-- How a message begins that is about a place in a script. -/
def Source.place (s : Source) : String :=
  match s.origin with
  | .expression n => "-e expression #" ++ toString n ++ ", char " ++ toString s.taken
  | .file name => "file " ++ name.spelled ++ " line " ++ toString s.line

def wrong {α : Type} (message : String) : Reader α := do
  throw ((← get).place ++ ": " ++ message)

/-- A word between the quotes that messages about scripts have. -/
def named (text : String) : String := String.ofList [Char.ofNat 0x60] ++ text ++ "'"

/-! ## Characters -/

def peek : Reader (Option Char) := return (← get).rest.head?

/-- The next character, which has been read then. -/
def next : Reader (Option Char) := do
  let s ← get
  match s.rest with
  | [] => return none
  | c :: rest =>
    set { s with rest := rest, taken := s.taken + 1, line := s.line + (if c = '\n' then 1 else 0) }
    return some c

def skip (count : Nat) : Reader Unit :=
  modify fun s => { s with
    rest := s.rest.drop count, taken := s.taken + min count s.rest.length,
    line := s.line + (s.rest.take count).count '\n' }

/-- Reads characters of a kind. -/
def takeWhile (p : Char → Bool) : Reader Octets := do
  let run := (← get).rest.takeWhile p
  skip run.length
  return run

def isBlank (c : Char) : Bool := c = ' ' || c = '\t'

def isSpace (c : Char) : Bool := c = ' ' || (9 ≤ c.toNat && c.toNat ≤ 13)

def blanks : Reader Unit := do
  let _ ← takeWhile isBlank

/-- The next character behind blanks, which stays where it is. -/
def peekPastBlanks : Reader (Option Char) := do
  blanks
  peek

def whole : Reader Nat := do
  return (digits? (← takeWhile Char.isDigit)).getD 0

/-- Nothing but an end may follow a command. -/
def endCommand : Reader Unit := do
  match ← peekPastBlanks with
  | none => pure ()
  | some '}' => pure ()
  | some '#' => pure ()
  | some '\n' => skip 1
  | some ';' => skip 1
  | some _ =>
    skip 1
    wrong "extra characters after command"

/-! ## Escapes -/

/-- What a text is read for: signs that have a meaning there keep a backslash before them. -/
inductive Purpose
  | regex
  | replacement
  | plain
  deriving DecidableEq

def digitIn (base : Nat) (c : Char) : Bool :=
  let value := if c.isDigit then c.toNat - '0'.toNat
    else if 'a' ≤ c && c ≤ 'f' then c.toNat - 'a'.toNat + 10
    else if 'A' ≤ c && c ≤ 'F' then c.toNat - 'A'.toNat + 10
    else 99
  value < base

def numberIn (base : Nat) (digits : Octets) : Nat :=
  digits.foldl (fun n c =>
    base * n + (if c.isDigit then c.toNat - '0'.toNat else c.toLower.toNat - 'a'.toNat + 10)) 0

/-- Characters that a regular expression gives a meaning. -/
def regexSigns : List Char := "$*.[\\]^+?()\x7b\x7d|\n".toList

/-- A character that is given by its number. It stands for itself, whatever it is. -/
def numbered (purpose : Purpose) (code : Nat) : Octets :=
  let c := Char.ofNat (code % 256)
  match purpose with
  | .regex => if c = '[' || c = ']' || c = '^' || c = '$' || c = '*' || c = '.' || c = '\\' then
      ['\\', c] else [c]
  | .replacement => if c = '&' || c = '\\' then ['\\', c] else [c]
  | .plain => if c = '\\' then ['\\', c] else [c]

/-- Escapes that are carried out before a text is looked at; others stay as they are. -/
def escapes (purpose : Purpose) : Nat → Octets → Octets
  | 0, _ => []
  | n + 1, text =>
    match text with
    | '\\' :: c :: rest =>
      let number (base most : Nat) : Octets :=
        let ds := (rest.take most).takeWhile (digitIn base)
        if ds.isEmpty then '\\' :: c :: escapes purpose n rest
        else numbered purpose (numberIn base ds) ++ escapes purpose n (rest.drop ds.length)
      match c with
      | 'a' => '\x07' :: escapes purpose n rest
      | 'f' => '\x0c' :: escapes purpose n rest
      | 'r' => '\x0d' :: escapes purpose n rest
      | 't' => '\t' :: escapes purpose n rest
      | 'v' => '\x0b' :: escapes purpose n rest
      | 'd' => number 10 3
      | 'o' => number 8 3
      | 'x' => number 16 2
      | 'c' =>
        match rest with
        | d :: rest =>
          numbered purpose (d.toUpper.toNat ^^^ 0x40) ++ escapes purpose n rest
        | [] => ['\\', 'c']
      | c => '\\' :: c :: escapes purpose n rest
    | c :: rest => c :: escapes purpose n rest
    | [] => []

def unescape (purpose : Purpose) (text : Octets) : Octets := escapes purpose text.length text

/-! ## Parts between marks -/

/-- A text up to a mark that no backslash stands before. Nothing is given if the line ends before. A
mark behind a backslash is a plain character; in a pattern it must not have a meaning then. -/
def upToMark (mark : Char) (isRegex : Bool) : Nat → Octets → Reader (Option Octets)
  | 0, _ => pure none
  | n + 1, found => do
    match ← peek with
    | none => return none
    | some '\n' => return none
    | some c =>
      skip 1
      if c = mark then return some found.reverse
      else if c = '\\' then
        match ← next with
        | none => return none
        | some d =>
          if d = mark && isRegex then
            if regexSigns.contains d && d ≠ '\\' then
              upToMark mark isRegex n (if d = '^' || d = '$' || d = '.' || d = '*' || d = '[' ||
                d = ']' then d :: '\\' :: found else d :: found)
            else upToMark mark isRegex n (d :: found)
          else if d = mark && d ≠ '&' then upToMark mark isRegex n (d :: found)
          else if d = 'n' && isRegex then upToMark mark isRegex n ('\n' :: found)
          else if d = '\n' then upToMark mark isRegex n (d :: found)
          else upToMark mark isRegex n (d :: '\\' :: found)
      else upToMark mark isRegex n (c :: found)

/-- A text between two marks of one kind, of which the first has been read. -/
def between (mark : Char) (isRegex : Bool) (missing : String) : Reader Octets := do
  match ← upToMark mark isRegex ((← get).rest.length + 1) [] with
  | some text => return text
  | none => wrong missing

/-- A pattern, with the number of its groups. -/
def pattern (text : Octets) (fold lines : Bool) : Reader (Pattern × Nat) := do
  if text.isEmpty then
    if fold || lines then wrong "cannot specify modifiers on empty regexp"
    else return (⟨none, ⟨false, false⟩⟩, 9)
  else match Regex.ofText ⟨(← get).extended, false⟩ (unescape .regex text) with
    | .ok (r, groups, _) => return (⟨some r, ⟨fold, lines⟩⟩, groups)
    | .error f => wrong f.message

/-! ## Addresses -/

def modifiers : Nat → (fold lines : Bool) → Reader (Bool × Bool)
  | 0, fold, lines => pure (fold, lines)
  | n + 1, fold, lines => do
    match ← peekPastBlanks with
    | some 'I' =>
      skip 1
      modifiers n true lines
    | some 'M' =>
      skip 1
      modifiers n fold true
    | _ => return (fold, lines)

/-- An address or a limit, if there is one. -/
def limit? : Reader (Option Limit) := do
  match ← peek with
  | some '/' =>
    skip 1
    let text ← between '/' true "unterminated address regex"
    let (fold, lines) ← modifiers (← get).rest.length false false
    return some (.address (.pattern (← pattern text fold lines).1))
  | some '\\' =>
    skip 1
    match ← next with
    | none => wrong "unterminated address regex"
    | some mark =>
      let text ← between mark true "unterminated address regex"
      let (fold, lines) ← modifiers (← get).rest.length false false
      return some (.address (.pattern (← pattern text fold lines).1))
  | some '$' =>
    skip 1
    return some (.address .last)
  | some '+' =>
    skip 1
    blanks
    return some (.later (← whole))
  | some '~' =>
    skip 1
    blanks
    return some (.multiple (← whole))
  | some c =>
    if c.isDigit then
      let n ← whole
      match ← peekPastBlanks with
      | some '~' =>
        skip 1
        blanks
        let width ← whole
        return some (.address (if width = 0 then .line n else .step n width))
      | _ => return some (.address (.line n))
    else return none
  | none => return none

/-- The lines that a command is for. -/
def addresses : Reader (Option Address × Option Limit) := do
  match ← limit? with
  | none => return (none, none)
  | some (.address a) =>
    let limit ← match ← peekPastBlanks with
      | some ',' =>
        skip 1
        blanks
        match ← limit? with
        | some l =>
          blanks
          pure (some l)
        | none =>
          let _ ← next
          wrong ("unexpected " ++ named ",")
      | _ => pure none
    let isPattern : Bool := match limit with
      | some (.address (.pattern _)) => true
      | _ => false
    let isZero : Bool := match a with
      | .line 0 => true
      | _ => false
    if isZero && !isPattern then
      let _ ← next
      wrong "invalid usage of line address 0"
    return (some a, limit)
  | some _ => wrong "invalid usage of +N or ~N as first address"

/-! ## Replacements -/

/-- The parts of a replacement. -/
def pieces (groups : Nat) : Nat → Octets → Reader (List Piece)
  | 0, _ => pure []
  | n + 1, text => do
    match text with
    | [] => return []
    | '\\' :: c :: rest =>
      let change (c : CaseChange) : Reader (List Piece) := do
        return .change c :: (← pieces groups n rest)
      match c with
      | 'U' => change .upper
      | 'L' => change .lower
      | 'u' => change .upperOne
      | 'l' => change .lowerOne
      | 'E' => change .usual
      | 'n' => return .text ['\n'] :: (← pieces groups n rest)
      | c =>
        if c.isDigit then
          let k := c.toNat - '0'.toNat
          if groups < k then
            wrong ("invalid reference \\" ++ toString k ++ " on " ++ named "s" ++ " command's RHS")
          else return .group k :: (← pieces groups n rest)
        else return .text [c] :: (← pieces groups n rest)
    | '&' :: rest => return .group 0 :: (← pieces groups n rest)
    | c :: rest => return .text [c] :: (← pieces groups n rest)

/-! ## Names and texts -/

/-- The rest of the line as the name of a file. -/
def fileName : Reader Octets := do
  blanks
  let name ← takeWhile (· ≠ '\n')
  let _ ← next
  if name.isEmpty then wrong "missing filename in r/R/w/W commands"
  return name

/-- The name of a file that is written. -/
def writtenFile : Reader Octets := do
  let name ← fileName
  modify fun s => { s with written := s.written ++ [name] }
  return name

/-- A label ends with white space, a semicolon or a closing brace. -/
def label : Reader Octets := do
  blanks
  takeWhile fun c => !isSpace c && c ≠ ';' && c ≠ '}'

/-- A text with its backslashes taken away; one stands for a line feed with the letter after it. -/
def plainText : Octets → Octets
  | '\\' :: 'n' :: rest => '\n' :: plainText rest
  | '\\' :: c :: rest => c :: plainText rest
  | c :: rest => c :: plainText rest
  | [] => []

/-- Reads a text to the end of its line; a line that ends with a backslash goes on. It is `none`
when the script ends behind a backslash. -/
def textAfter : Nat → Octets → Reader (Octets × Bool)
  | 0, found => pure (found.reverse, true)
  | n + 1, found => do
    match ← next with
    | none => return (found.reverse, true)
    | some '\n' => return (found.reverse, true)
    | some '\\' =>
      match ← next with
      | none => return (found.reverse, false)
      | some c => textAfter n (c :: '\\' :: found)
    | some c => textAfter n (c :: found)

def finishText (text : Octets) : Octets := plainText (unescape .plain text) ++ ['\n']

/-- The text of a command that brings one, and whether it is complete. -/
def bringText : Reader (Octets × Bool) := do
  match ← peekPastBlanks with
  | none => wrong ("expected \\ after " ++ named "a" ++ ", " ++ named "c" ++ " or " ++ named "i")
  | some '\\' =>
    skip 1
    let before ← get
    blanks
    match ← peek with
    | some '\n' =>
      skip 1
      textAfter (before.rest.length + 1) []
    | none => return ([], false)
    | some _ =>
      set before
      textAfter (before.rest.length + 1) []
  | some _ => textAfter ((← get).rest.length + 1) []

/-! ## Substitutions -/

structure Flags where
  fold : Bool
  lines : Bool
  number : Option Nat
  everywhere : Bool
  prints : Bool
  runs : Bool
  file : Option Octets

def flags : Nat → Flags → Reader Flags
  | 0, f => pure f
  | n + 1, f => do
    match ← peek with
    | none => return f
    | some '}' => return f
    | some '#' => return f
    | some c =>
      if c.isDigit then
        if f.number.isSome then
          skip 1
          wrong ("multiple number options to " ++ named "s" ++ " command")
        let k ← whole
        if k = 0 then wrong ("number option to " ++ named "s" ++ " command may not be zero")
        flags n { f with number := some k }
      else
        skip 1
        match c with
        | '\n' => return f
        | ';' => return f
        | ' ' => flags n f
        | 'i' => flags n { f with fold := true }
        | 'I' => flags n { f with fold := true }
        | 'm' => flags n { f with lines := true }
        | 'M' => flags n { f with lines := true }
        | 'e' => flags n { f with runs := true }
        | 'p' =>
          if f.prints then
            wrong ("multiple " ++ named "p" ++ " options to " ++ named "s" ++ " command")
          flags n { f with prints := true }
        | 'g' =>
          if f.everywhere then
            wrong ("multiple " ++ named "g" ++ " options to " ++ named "s" ++ " command")
          flags n { f with everywhere := true }
        | 'w' => return { f with file := some (← writtenFile) }
        | _ => wrong ("unknown option to " ++ named "s")

def substitution : Reader Substitution := do
  let missing := "unterminated " ++ named "s" ++ " command"
  match ← next with
  | none => wrong missing
  | some mark =>
    if mark = '\n' || mark = '\\' then wrong missing
    let text ← between mark true missing
    let replacement ← between mark false missing
    let f ← flags ((← get).rest.length + 1) ⟨false, false, none, false, false, false, none⟩
    let (p, groups) ← pattern text f.fold f.lines
    let replacement := unescape .replacement replacement
    let pieces ← pieces groups (replacement.length + 1) replacement
    return ⟨p, pieces, f.number.getD 1, f.everywhere, f.prints, f.runs, f.file⟩

/-- The characters of a text that are exchanged: a backslash stands before itself, a line feed and
the mark. -/
def exchanged (text : Octets) : Nat → List Octets
  | 0 => []
  | n + 1 =>
    match text with
    | '\\' :: '\\' :: rest => ['\\'] :: exchanged rest n
    | '\\' :: 'n' :: rest => ['\n'] :: exchanged rest n
    | '\\' :: '\n' :: rest => ['\n'] :: exchanged rest n
    | [] => []
    | text =>
      let width := max (Quoting.characterAt text).1 1
      text.take width :: exchanged (text.drop width) n

def exchange : Reader (List (Octets × Octets)) := do
  let missing := "unterminated " ++ named "y" ++ " command"
  match ← next with
  | none => wrong missing
  | some mark =>
    let source := unescape .plain (← between mark false missing)
    let target := unescape .plain (← between mark false missing)
    let as := exchanged source (source.length + 1)
    let bs := exchanged target (target.length + 1)
    if as.length ≠ bs.length then
      wrong ("strings for " ++ named "y" ++ " command are different lengths")
    endCommand
    return as.zip bs

/-! ## Commands -/

/-- Adds a command, and gives its place. -/
def add (first : Option Address) (last : Option Limit) (inverted : Bool) (a : Action) :
    Reader Nat := do
  let s ← get
  set { s with commands := ⟨first, last, inverted, a⟩ :: s.commands }
  return s.commands.length

/-- Changes the action of the command that was added last. -/
def setLast (a : Action) : Reader Unit :=
  modify fun s => match s.commands with
    | c :: rest => { s with commands := { c with action := a } :: rest }
    | [] => s

/-- An action with a text, from the letter of its command. -/
def textAction (letter : Char) (text : Octets) : Action :=
  match letter with
  | 'i' => .insert text
  | 'c' => .change text
  | _ => .append text

/-- An action without anything behind its letter. -/
def plainAction? (letter : Char) : Option Action :=
  [('=', Action.number), ('d', .delete), ('D', .deleteFirst), ('F', .fileName), ('g', .get),
    ('G', .getAdded), ('h', .hold), ('H', .holdAdded), ('n', .next), ('N', .nextAdded),
    ('p', .print), ('P', .printFirst), ('z', .empty), ('x', .swap)].lookup letter

/-- The rest of a command, behind its letter. -/
def command (first : Option Address) (last : Option Limit) (inverted : Bool) (letter : Char) :
    Reader Unit := do
  let simply (a : Action) : Reader Unit := do
    let _ ← add first last inverted a
  let jump (a : Nat → Action) : Reader Unit := do
    let name ← label
    endCommand
    let place ← add first last inverted (a 0)
    if !name.isEmpty then
      modify fun s => { s with jumps := ⟨place, name⟩ :: s.jumps }
    else setLast (a 1000000000)
  match plainAction? letter with
  | some a =>
    endCommand
    simply a
  | none =>
  match letter with
  | '{' => do
    let place ← add first last inverted (.block 0)
    modify fun s => { s with blocks := place :: s.blocks }
  | '}' => do
    match (← get).blocks with
    | [] => wrong ("unexpected " ++ named "\x7d")
    | start :: blocks =>
      if first.isSome then wrong (named "\x7d" ++ " doesn't want any addresses")
      endCommand
      let place ← add none none false .blockEnd
      modify fun s => { s with
        blocks := blocks
        commands := s.commands.zipIdx.map fun (c, k) =>
          if s.commands.length - 1 - k = start then { c with action := .block place } else c }
  | ':' => do
    if first.isSome then wrong ": doesn't want any addresses"
    let name ← label
    if name.isEmpty then wrong "\":\" lacks a label"
    let place ← add none none false .label
    modify fun s => { s with labels := (name, place) :: s.labels }
  | 'b' => jump .jump
  | 't' => jump .jumpIfChanged
  | 'T' => jump .jumpUnlessChanged
  | 's' => do simply (.substitute (← substitution))
  | 'y' => do simply (.exchange (← exchange))
  | 'r' => do simply (.read (← fileName))
  | 'R' => do simply (.readLine (← fileName))
  | 'w' => do simply (.write (← writtenFile))
  | 'W' => do simply (.writeFirst (← writtenFile))
  | 'e' => do
    blanks
    let text ← takeWhile (· ≠ '\n')
    simply (.run text)
  | 'v' => do
    let _ ← label
    endCommand
    simply .nothing
  | letter =>
    if letter = 'a' || letter = 'i' || letter = 'c' then
      let (text, complete) ← bringText
      if complete then simply (textAction letter (finishText text))
      else
        simply (textAction letter (if text.isEmpty then [] else finishText text))
        modify fun s => { s with text := some text }
    else if letter = 'q' || letter = 'Q' then
      if last.isSome then wrong "command only uses one address"
      blanks
      let code ← whole
      endCommand
      simply (if letter = 'q' then .quit code else .quitSilently code)
    else if letter = 'l' || letter = 'L' then
      blanks
      let ds ← takeWhile Char.isDigit
      endCommand
      simply (.show (digits? ds))
    else wrong ("unknown command: " ++ named (Octets.spelled [letter]))

/-- A remark goes to the end of its line. The first line of a script may ask for silence. -/
def remark (start : Nat) : Reader Unit := do
  let text ← takeWhile (· ≠ '\n')
  let s ← get
  if s.first && start = 0 && text = ['n'] then set { s with quiet := true }

/-- Goes on with a text that the last part of the script has not ended. -/
def resumeText : Reader Unit := do
  let s ← get
  match s.text, s.commands with
  | some before, c :: _ =>
    let (more, complete) ← textAfter (s.rest.length + 1) []
    let text := if before.isEmpty then more else before ++ '\\' :: '\n' :: more
    let letter := match c.action with
      | .insert _ => 'i'
      | .change _ => 'c'
      | _ => 'a'
    setLast (textAction letter (finishText text))
    modify fun s => { s with text := if complete then none else some text }
  | _, _ => pure ()

/-- All commands of a part of the script. -/
def commands : Nat → Reader Unit
  | 0 => pure ()
  | n + 1 => do
    let _ ← takeWhile fun c => isSpace c || c = ';'
    let start := (← get).taken
    match ← peek with
    | none => pure ()
    | some _ => do
      let (first, last) ← addresses
      let mut inverted := false
      match ← peekPastBlanks with
      | some '!' =>
        skip 1
        inverted := true
        match ← peekPastBlanks with
        | some '!' =>
          skip 1
          wrong ("multiple " ++ named "!" ++ "s")
        | _ => pure ()
      | _ => pure ()
      match ← next with
      | none => wrong "missing command"
      | some '#' =>
        if first.isSome then wrong "comments don't accept any addresses"
        remark start
        commands n
      | some c =>
        command first last inverted c
        commands n

/-- One part of a script, behind those that have been read. -/
def part (origin : Origin) (text : Octets) : Reader Unit := do
  modify fun s => { s with rest := text, taken := 0, line := 1, origin := origin }
  resumeText
  commands (text.length + 1)
  modify fun s => { s with first := false }

/-- The place that a label stands for. -/
def resolve (s : Source) (c : Command) (place : Nat) : Except String Command :=
  match s.jumps.find? fun j => j.place = place with
  | none => .ok c
  | some j =>
    match s.labels.lookup j.label with
    | none => .error ("can't find label for jump to " ++ named j.label.spelled)
    | some target =>
      .ok { c with action := match c.action with
        | .jumpIfChanged _ => .jumpIfChanged target
        | .jumpUnlessChanged _ => .jumpUnlessChanged target
        | _ => .jump target }

/-- A message about a script, with the exit code that goes with it. -/
abbrev Refusal := Nat × String

/-- The script of some parts, and the files that it writes. -/
def scriptOf (extended : Bool) (parts : List (Origin × Octets)) :
    Except Refusal Script × List Octets :=
  let start : Source := ⟨[], 0, 1, .expression 1, true, extended, [], [], [], [], none, false, []⟩
  let (answer, s) := (parts.forM fun (o, text) => part o text).run start
  let script : Except Refusal Script := match answer with
    | .error message => .error (1, message)
    | .ok () =>
      if !s.blocks.isEmpty then
        .error (1, { s with taken := 0 }.place ++ ": unmatched " ++ named "\x7b")
      else match (s.commands.reverse.zipIdx).mapM fun (c, k) => resolve s c k with
        | .error message => .error (4, message)
        | .ok commands => .ok ⟨commands.toArray, s.quiet⟩
  (script, s.written.eraseDups)

end Worksheet.Host.Tools.Edit
