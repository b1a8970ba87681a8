-- Commands about variables, options and arguments.
import Worksheet.Host.Shell.Fields
import Worksheet.Host.Shell.Signals

namespace Worksheet.Host.Shell

open Text (Octets)

/-! ## Variables -/

/-- Tells of variables in the order of their names, each behind what makes a command of it. -/
def tellVariables (start : Octets) (chosen : Variable → Bool) : Sh Unit := do
  let found := (← get).bindings.filter fun e => chosen e.2
  let found := found.mergeSort fun a b => decide (String.ofList a.1 ≤ String.ofList b.1)
  out (found.flatMap fun (name, v) =>
    start ++ name ++ (match v.value with
      | some value => '=' :: quote value
      | none => []) ++ ['\n'])

/-- An assignment among the arguments: the name, and the value if there is one. -/
def assigned (w : Octets) : Octets × Option Octets :=
  let name := w.takeWhile (· ≠ '=')
  (name, if name.length < w.length then some (w.drop (name.length + 1)) else none)

/-- Something that is not the name of a variable. -/
def requireName (name : Octets) : Sh Unit := do
  if !isName name then fatal (name.spelled ++ ": bad variable name")

/-- Marks variables, and gives some of them values; or tells of those with the mark. -/
def mark (command : String) (change : Variable → Variable) (chosen : Variable → Bool) : Builtin :=
  fun words => do
    let (options, words) ← letters "p" "" words
    if !options.isEmpty || words.isEmpty then
      tellVariables (word (command ++ " ")) chosen
    else
      words.forM fun w => do
        let (name, value) := assigned w
        requireName name
        match value with
        | some v => assign name v
        | none => pure ()
        let old := (binding? (← get) name).getD ⟨none, false, false⟩
        modify fun s => { s with bindings := setEntry name (change old) s.bindings }
    return 0

def exportVariables : Builtin :=
  mark "export" (fun v => { v with exported := true }) fun v => v.exported

def protectVariables : Builtin :=
  mark "readonly" (fun v => { v with constant := true }) fun v => v.constant

/-- Takes a variable away. -/
def unsetVariable (name : Octets) : Sh Unit := do
  requireName name
  match binding? (← get) name with
  | some v =>
    if v.constant then fatal (name.spelled ++ ": is read only")
    else
      if name = word "OPTIND" then fatal "Illegal number: "
      modify (dropVariable name)
  | none => pure ()

def unset : Builtin := fun words => do
  let (options, words) ← letters "vf" "" words
  words.forM fun w =>
    if (options.getLast?.map (·.1)) = some 'f' then
      modify fun s => { s with functions := s.functions.filter fun f => f.1 ≠ w }
    else unsetVariable (assigned w).1
  return 0

/-- Variables that get their old values back when the function is left; a dash stands for the
options. -/
def localize : Builtin := fun words => do
  if (← get).calls = 0 then fatal "not in a function"
  words.forM fun w => do
    if w = ['-'] then hideOptions
    else
      let (name, value) := assigned w
      if value.isNone then requireName name
      hide name
      match value with
      | some v => assign name v
      | none => pure ()
  return 0

/-! ## Options and arguments -/

/-- New arguments; the reading of options starts again. -/
def setArguments (arguments : List Octets) : Sh Unit :=
  modify fun s => { s with arguments := arguments, optionIndex := 1, optionOffset := 0 }

def turn (name : String) (on : Bool) : Sh Unit :=
  modify fun s =>
    let others := s.options.filter (· ≠ name)
    { s with options := if on then name :: others else others }

/-- Sets an option by its letter. Of two ways of editing only one can be on. -/
def turnLetter (letter : Char) (on : Bool) : Sh Unit := do
  match optionNames.find? fun o => o.2 = some letter with
  | none => fatal ("Illegal option -" ++ String.ofList [letter])
  | some (name, _) =>
    turn name on
    if on && name = "vi" then turn "emacs" false
    if on && name = "emacs" then turn "vi" false

/-- Sets an option by its name, or tells of all options. -/
def turnNamed (name : Option Octets) (on : Bool) : Sh Unit := do
  match name with
  | some name =>
    if (optionNames.lookup name.spelled).isSome then turn name.spelled on
    else fatal ("Illegal option -o " ++ name.spelled)
  | none =>
    let s ← get
    if on then
      out (word "Current option settings\n")
      optionNames.forM fun (name, _) =>
        let fill := String.ofList (List.replicate (16 - name.length) ' ')
        out (word (name ++ fill ++ (if s.options.contains name then "on" else "off") ++ "\n"))
    else
      optionNames.forM fun (name, _) =>
        out (word ("set " ++ (if s.options.contains name then "-o " else "+o ") ++ name ++ "\n"))

/-- What the words in front of the arguments say: the words after them, whether two dashes have
ended them, and whether the script is among the words. -/
structure Settings where
  words : List Octets
  closed : Bool
  inWords : Bool

/-- The letters of one word; the answer is what is left of the words, and whether the script is
among them. -/
def readSwitches (starting on : Bool) : List Char → List Octets → Sh (List Octets × Bool)
  | [], words => pure (words, false)
  | c :: more, words => do
    if starting && c = 'c' then
      let (words, _) ← readSwitches starting on more words
      return (words, true)
    else if starting && c = 'l' then readSwitches starting on more words
    else if c = 'o' then
      turnNamed words.head? on
      readSwitches starting on more (words.drop 1)
    else
      turnLetter c on
      readSwitches starting on more words

/-- Reads options at the start of a shell, or while it works. -/
def readSettings (starting : Bool) : Nat → (inWords : Bool) → List Octets → Sh Settings
  | 0, inWords, words => pure ⟨words, false, inWords⟩
  | n + 1, inWords, words => do
    match words with
    | ['-', '-'] :: rest => return ⟨rest, true, inWords⟩
    | ['-'] :: rest =>
      if !starting then
        turn "xtrace" false
        turn "verbose" false
      return ⟨rest, false, inWords⟩
    | ('-' :: switches) :: rest =>
      let (rest, found) ← readSwitches starting true switches rest
      readSettings starting n (inWords || found) rest
    | ('+' :: switches) :: rest =>
      let (rest, found) ← readSwitches starting false switches rest
      readSettings starting n (inWords || found) rest
    | words => return ⟨words, false, inWords⟩

/-- Options, and arguments in place of those that there are; or all variables. -/
def setAll : Builtin := fun words => do
  if words.isEmpty then tellVariables [] fun v => v.value.isSome
  else
    let settings ← readSettings false (words.length + 1) false words
    if settings.closed || !settings.words.isEmpty then setArguments settings.words
  return 0

def shift : Builtin := fun words => do
  let count ← match words with
    | w :: _ => countOf w
    | [] => pure 1
  let s ← get
  if s.arguments.length < count then fatal "can't shift that many"
  else
    setArguments (s.arguments.drop count)
    return 0

/-! ## Options among the arguments -/

/-- One step through the options among arguments: the letter that is found and its value, with the
number of the next argument and the place in the one before it. A letter that is wrong and one
without its value are told of, or given as a value if the letters are wanted quietly. -/
structure OptionStep where
  done : Bool
  letter : Char
  value : Option (Option Octets)
  complaint : Option String
  index : Nat
  offset : Nat

/-- Whether a letter is among those that are known, and takes a value. -/
def takesValue? (known : Octets) (letter : Char) : Option Bool :=
  match known with
  | [] => none
  | [c] => if c = letter then some false else none
  | c :: ':' :: rest => if c = letter then some true else takesValue? rest letter
  | c :: rest => if c = letter then some false else takesValue? rest letter

/-- The step at a letter of an argument, after which the place is given. -/
def stepAt (known : Octets) (arguments : List Octets) (index offset : Nat) (letter : Char)
    (more : Octets) : OptionStep :=
  let quiet := known.head? = some ':'
  match takesValue? known letter with
  | none =>
    if quiet then ⟨false, '?', some (some [letter]), none, index, offset⟩
    else ⟨false, '?', some none, some ("Illegal option -" ++ String.ofList [letter]), index, offset⟩
  | some false => ⟨false, letter, some (some []), none, index, offset⟩
  | some true =>
    if !more.isEmpty then ⟨false, letter, some (some more), none, index, 0⟩
    else match arguments[index - 1]? with
      | some value => ⟨false, letter, some (some value), none, index + 1, 0⟩
      | none =>
        if quiet then ⟨false, ':', some (some [letter]), none, index, 0⟩
        else
          ⟨false, '?', some none, some ("No arg for -" ++ String.ofList [letter] ++ " option"),
            index, 0⟩

def optionStep (known : Octets) (arguments : List Octets) (index offset : Nat) : OptionStep :=
  let (index, offset) := if arguments.length + 1 < index then (1, 0) else (index, offset)
  let before := arguments.getD (index - 2) []
  let inside := 1 < index && 0 < offset && offset < before.length
  if inside then
    let rest := before.drop offset
    stepAt known arguments index (offset + 1) (rest.headD ' ') (rest.drop 1)
  else
    let done : OptionStep := ⟨true, '?', none, none, index, 0⟩
    match arguments[index - 1]? with
    | some ['-', '-'] => { done with index := index + 1 }
    | some ('-' :: c :: more) => stepAt known arguments (index + 1) 2 c more
    | _ => done

/-- Reads one option of the arguments into a variable. -/
def getopts : Builtin := fun words => do
  let (_, words) ← letters "" "" words
  match words with
  | known :: name :: rest =>
    let s ← get
    let arguments := if rest.isEmpty then s.arguments else rest
    let step := optionStep known arguments s.optionIndex s.optionOffset
    match step.complaint with
    | some message => tell message
    | none => pure ()
    match step.value with
    | some (some value) => assign (word "OPTARG") value
    | some none => unsetVariable (word "OPTARG")
    | none => pure ()
    assign (word "OPTIND") (Octets.ofNat step.index)
    requireName name
    assign name [step.letter]
    modify fun s => { s with optionIndex := step.index, optionOffset := step.offset }
    return if step.done then 1 else 0
  | _ => fatal "Usage: getopts optstring var [arg...]"

/-! ## Reading -/

/-- One line of the input, octet by octet, so that nothing behind it is taken; latest first.
Characters behind a backslash do not count as separators. The flag says whether the line was
ended. -/
def readLineAfter (raw : Bool) : Nat → List (Char × Bool) → Task (List (Char × Bool) × Bool)
  | 0, found => pure (found, false)
  | n + 1, found => do
    match ← Task.call (.read 0 1) with
    | .ok ['\n'] => return (found, true)
    | .ok ['\\'] =>
      if raw then readLineAfter raw n (('\\', true) :: found)
      else
        match ← Task.call (.read 0 1) with
        | .ok ['\n'] => readLineAfter raw n found
        | .ok [c] => readLineAfter raw n ((c, false) :: found)
        | _ => return (found, false)
    | .ok [c] => readLineAfter raw n (if c = Char.ofNat 0 then found else (c, true) :: found)
    | _ => return (found, false)

/-- The pieces of a line that has been read. -/
def linePieces (line : List (Char × Bool)) : List Piece :=
  line.map fun (c, free) => if free then .loose [c] else .fixed false [c]

/-- Pieces of one kind beside each other are one. -/
def mergeLoose : List Piece → List Piece
  | [] => []
  | .loose a :: rest =>
    match mergeLoose rest with
    | .loose b :: rest => .loose (a ++ b) :: rest
    | rest => .loose a :: rest
  | p :: rest => p :: mergeLoose rest

/-- Gives names the fields of a line; those without one get nothing. -/
def shareOut : List Octets → List Octets → Sh Unit
  | [], _ => pure ()
  | name :: names, fields => do
    requireName name
    assign name (fields.headD [])
    shareOut names (fields.drop 1)

def read : Builtin := fun words => do
  let (options, names) ← letters "r" "p" words
  if names.isEmpty then fatal "arg count"
  let raw := options.any fun o => o.1 = 'r'
  let (line, ended) ← lift (readLineAfter raw Task.limit [])
  let pieces := mergeLoose (linePieces line.reverse)
  shareOut names (fieldsUpTo names.length (separators (← get)) pieces)
  return if ended then 0 else 1

end Worksheet.Host.Shell
