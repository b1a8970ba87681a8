-- Tools that pass streams on: whole, numbered, from their ends, or to several places.
import Worksheet.Host.Tools.Input

namespace Worksheet.Host.Tools

open Text (Octets)

/-- Reads a stream chunk by chunk and writes what a step makes of each; the step keeps a state,
and ends the work when it gives none. What it has left over can be given back. -/
def passAfter {τ : Type} (i : Invocation) (descriptor : Nat) (size : τ → Nat)
    (step : τ → Octets → Octets × Option τ × Nat) :
    Nat → τ → Task (Except Errno (Option τ))
  | 0, t => pure (.ok (some t))
  | n + 1, t => do
    match ← Task.call (.read descriptor (size t)) with
    | .error e => return .error e
    | .ok [] => return .ok (some t)
    | .ok (c :: rest) =>
      let (text, t', left) := step t (c :: rest)
      put i 1 text
      if left ≠ 0 then
        let _ ← Task.call (.rewind descriptor left)
      match t' with
      | some t' => passAfter i descriptor size step n t'
      | none => return .ok none

/-- Passes all inputs on with one state. -/
def pass {τ : Type} (i : Invocation) (step : τ → Octets → Octets × τ) :
    τ → List Octets → Task Bool
  | _, [] => pure true
  | t, name :: rest => do
    let bad (e : Errno) : Task Bool := do
      complainOf i name e
      let _ ← pass i step t rest
      return false
    match ← openInput name with
    | .error e => bad e
    | .ok descriptor =>
      let r ← passAfter i descriptor (fun _ => Task.chunkSize) (fun t text =>
        let (text, t) := step t text
        (text, some t, 0)) Task.limit t
      closeInput name descriptor
      match r with
      | .error e => bad e
      | .ok t' => pass i step (t'.getD t) rest

/-! ## Whole texts -/

/-- How the lines of a copy look. -/
structure CopyStyle where
  numbers : Bool
  onlyFilled : Bool
  squeezed : Bool
  ends : Bool
  tabs : Bool
  visible : Bool

/-- The number of the last line, whether a line begins, and how many empty lines stand before. -/
structure CopyState where
  line : Nat
  fresh : Bool
  empty : Nat

/-- A character that cannot be seen in signs that can. -/
def visibleChar (c : Char) : Octets :=
  let low (n : Nat) : Octets :=
    if n < 0x20 then ['^', Char.ofNat (n + 64)]
    else if n = 0x7f then ['^', '?']
    else [Char.ofNat n]
  if c.toNat < 0x80 then low c.toNat
  else 'M' :: '-' :: low (c.toNat - 0x80)

def lineNumber (n : Nat) : Octets :=
  let ds := Octets.ofNat n
  List.replicate (6 - ds.length) ' ' ++ ds ++ ['\t']

/-- Copies text in a style, after what has been copied (latest first). -/
def copyStyled (s : CopyStyle) : Octets → CopyState → Octets → Octets × CopyState
  | done, t, [] => (done.reverse, t)
  | done, t, '\n' :: rest =>
    let empty := if t.fresh then t.empty + 1 else 0
    if s.squeezed && 1 < empty then copyStyled s done { t with empty := empty } rest
    else
      let counted := t.fresh && s.numbers && !s.onlyFilled
      let done := if counted then (lineNumber (t.line + 1)).reverse ++ done else done
      let done := if s.ends then '$' :: done else done
      copyStyled s ('\n' :: done) ⟨if counted then t.line + 1 else t.line, true, empty⟩ rest
  | done, t, c :: rest =>
    let counted := t.fresh && (s.numbers || s.onlyFilled)
    let done := if counted then (lineNumber (t.line + 1)).reverse ++ done else done
    let shown : Octets :=
      if c = '\t' then (if s.tabs then ['^', 'I'] else [c])
      else if c = '\x0d' && s.ends && rest.head? = some '\n' then ['^', 'M']
      else if s.visible then visibleChar c
      else [c]
    copyStyled s (shown.reverse ++ done) ⟨if counted then t.line + 1 else t.line, false, 0⟩ rest

/-- An input that is also the output would never end. -/
def copiesItself (name : Octets) : Task Bool := do
  match ← Task.call (.fileOf 1) with
  | none => return false
  | some target =>
    if name = ['-'] then
      match ← Task.call (.fileOf 0), ← Task.call (.examine target) with
      | some source, .ok (.regular _ size) => return source = target && size ≠ 0
      | _, _ => return false
    else match ← Task.call (.resolve name), ← Task.call (.examine name) with
      | .ok source, .ok (.regular _ size) => return source = target && size ≠ 0
      | _, _ => return false

/-- Copies its inputs. -/
def cat : Tool := fun i => do
  let o ← options (grammar "AbeEnstTuv" [("show-all", "A"), ("number-nonblank", "b"),
    ("show-ends", "E"), ("number", "n"), ("squeeze-blank", "s"), ("show-tabs", "T"),
    ("show-nonprinting", "v")]) i
  if !(← Task.call (.isOpen 1)) then
    fail i 1 ("standard output: " ++ Errno.badDescriptor.text)
  let has (keys : List String) : Bool := keys.any o.has
  let style : CopyStyle := ⟨o.has "n", o.has "b", o.has "s", has ["E", "A", "e"], has ["T", "A", "t"],
    has ["v", "A", "e", "t"]⟩
  let plain := !has ["A", "b", "e", "E", "n", "s", "t", "T", "v"]
  let names := inputNames o.operands
  let good ← forEach (fun name => do
    if ← copiesItself name then
      complain i (bare name ++ ": input file is output file")
      return false
    else if plain then pass i (fun (_ : Unit) text => (text, ())) () [name]
    else return true) names
  let good ← if plain then pure good
    else do
      let others ← pass i (fun t text => copyStyled style [] t text) ⟨0, true, 0⟩ names
      pure (good && others)
  if names.contains ['-'] && !(← Task.call (.isOpen 0)) then
    fail i 1 ("closing standard input: " ++ Errno.badDescriptor.text)
  return codeOf good

/-! ## Ends of a text -/

/-- A count may stand behind the dash of the first word, with letters for what is counted. -/
def dashNumber (words : List Octets) : List Octets :=
  match words with
  | ('-' :: c :: more) :: rest =>
    if c.isDigit then
      let ds := (c :: more).takeWhile Char.isDigit
      let letters := (c :: more).drop ds.length
      let flags := letters.filter fun l => l = 'q' || l = 'v' || l = 'z' || l = 'f'
      let unit := letters.filter fun l => l = 'k' || l = 'm' || l = 'b'
      (if letters.contains 'c' || !unit.isEmpty then word "-c" else word "-n") :: (ds ++ unit) ::
        (if flags.isEmpty then rest else ('-' :: flags) :: rest)
    else ('-' :: c :: more) :: rest
  | words => words

/-- The lines of a text up to a count, after those found (latest first), how many are still to come,
and what is left of the text. -/
def takeLines (mark : Char) (found : Octets) : Nat → Octets → Octets × Nat × Octets
  | 0, rest => (found.reverse, 0, rest)
  | n + 1, [] => (found.reverse, n + 1, [])
  | n + 1, c :: rest =>
    if c = mark then takeLines mark (c :: found) n rest
    else takeLines mark (c :: found) (n + 1) rest

def headBytes (left : Nat) (text : Octets) : Octets × Option Nat × Nat :=
  (text.take left, if left ≤ text.length then none else some (left - text.length), 0)

def headLines (mark : Char) (left : Nat) (text : Octets) : Octets × Option Nat × Nat :=
  let (text, left, rest) := takeLines mark [] left text
  (text, if left = 0 then none else some left, rest.length)

/-- The name of an input in a title or a message. -/
def inputTitle (name : Octets) : Octets := if name = ['-'] then word "standard input" else name

/-- A complaint about an input of a tool that shows the ends of texts. -/
def complainOfEnd (i : Invocation) (name : Octets) (reading : Bool) (e : Errno) : Task Unit :=
  let shown := inPlainQuotes (inputTitle name)
  complain i ((if reading then "error reading " ++ shown
    else "cannot open " ++ shown ++ " for reading") ++ ": " ++ e.text)

/-- The title of an input when there are several. -/
def title (first : Bool) (name : Octets) : Octets :=
  (if first then [] else ['\n']) ++ word "==> " ++ inputTitle name ++ word " <==\n"

/-- Does something to the descriptor of each input, under its title. -/
def eachInput (i : Invocation) (titled : Bool) (act : Nat → Task (Except Errno Unit)) :
    (first : Bool) → List Octets → Task Bool
  | _, [] => pure true
  | first, name :: rest => do
    match ← openInput name with
    | .error e =>
      complainOfEnd i name false e
      let _ ← eachInput i titled act first rest
      return false
    | .ok descriptor =>
      if titled then put i 1 (title first name)
      let r ← act descriptor
      closeInput name descriptor
      match r with
      | .error e =>
        complainOfEnd i name true e
        let _ ← eachInput i titled act false rest
        return false
      | .ok () => eachInput i titled act false rest

/-- The whole of a text that is read from a descriptor, changed. -/
def passWhole (i : Invocation) (change : Octets → Octets) (descriptor : Nat) :
    Task (Except Errno Unit) := do
  match ← readDescriptor descriptor with
  | .error e => return .error e
  | .ok text =>
    put i 1 (change text)
    return .ok ()

/-- All but the last items of a list. -/
def allBut {α : Type} (n : Nat) (items : List α) : List α := items.take (items.length - n)

/-- The options of tools that show the ends of texts. -/
def endGrammar : Grammar :=
  grammar "c:n:qvzfF" [("bytes=", "c"), ("lines=", "n"), ("quiet", "q"), ("silent", "q"),
    ("verbose", "v"), ("zero-terminated", "z"), ("follow?", "f")]

/-- What is counted, and how it is written. -/
def endCount (o : Options) : Bool × Octets :=
  let bytes := o.lastOf ["c", "n"] = some "c"
  (bytes, (o.value? (if bytes then "c" else "n")).getD (word "10"))

def isTitled (o : Options) (names : List Octets) : Bool :=
  match o.lastOf ["q", "v"] with
  | some k => k = "v"
  | none => 1 < names.length

def wrongCount {α : Type} (i : Invocation) (bytes : Bool) (text : Octets) : Task α :=
  fail i 1 ("invalid number of " ++ (if bytes then "bytes" else "lines") ++ ": " ++ inQuotes text)

/-- The first lines or bytes of its inputs, or all but the last ones. -/
def head : Tool := fun i => do
  let o ← options endGrammar { i with words := dashNumber i.words }
  let names := inputNames o.operands
  let each (act : Nat → Task (Except Errno Unit)) : Task Nat := do
    return codeOf (← eachInput i (isTitled o names) act true names)
  let (bytes, text) := endCount o
  let back := text.head? = some '-'
  let mark := lineMark o
  let some n := count? (if back then text.drop 1 else text)
    | wrongCount i bytes (if back then text.drop 1 else text)
  let some1 (r : Task (Except Errno (Option Nat))) : Task (Except Errno Unit) := do
    return (← r).map fun _ => ()
  if back then
    each (passWhole i fun t =>
      if bytes then allBut n t else (allBut n (linesAfter mark [] [] t)).flatten)
  else if n = 0 then each fun _ => pure (.ok ())
  else if bytes then
    each fun d => some1 (passAfter i d (min Task.chunkSize) headBytes Task.limit n)
  else each fun d => some1 (passAfter i d (fun _ => Task.chunkSize) (headLines mark) Task.limit n)

/-- The last items of a list, or those from a position on. -/
def tailOf {α : Type} (items : List α) (text : Octets) : Option (List α) :=
  match text with
  | '+' :: rest => (count? rest).map fun n => items.drop (n - 1)
  | '-' :: rest => (count? rest).map fun n => items.drop (items.length - n)
  | rest => (count? rest).map fun n => items.drop (items.length - n)

/-- Waits for what is added to a file. -/
def followAfter (i : Invocation) (descriptor : Nat) : Nat → Task Unit
  | 0 => pure ()
  | n + 1 => do
    match ← Task.call (.read descriptor Task.chunkSize) with
    | .ok (c :: rest) => put i 1 (c :: rest)
    | _ => Task.call (.sleep 1000000000)
    followAfter i descriptor n

/-- The last lines or bytes of its inputs. -/
def tail : Tool := fun i => do
  let o ← options endGrammar { i with words := dashNumber i.words }
  let names := inputNames o.operands
  let (bytes, size) := endCount o
  if (tailOf ([] : Octets) size).isNone then
    wrongCount i bytes (match size with
      | '-' :: rest => rest
      | size => size)
  let mark := lineMark o
  let change (t : Octets) : Octets :=
    if bytes then (tailOf t size).getD []
    else ((tailOf (linesAfter mark [] [] t) size).getD []).flatten
  let act (descriptor : Nat) : Task (Except Errno Unit) := do
    let r ← passWhole i change descriptor
    if (o.has "f" || o.has "F") && r.toOption.isSome && names.length = 1 &&
        (← Task.call (.fileOf descriptor)).isSome then
      followAfter i descriptor Task.limit
    return r
  return codeOf (← eachInput i (isTitled o names) act true names)

/-- Its inputs with the last line first. -/
def tac : Tool := fun i => do
  let o ← options (grammar "brs:" [("before", "b"), ("regex", "r"), ("separator=", "s")]) i
  let mark := ((o.value? "s").getD ['\n']).headD (Char.ofNat 0)
  let good ← forEach (fun name => do
    match ← openInput name with
    | .error e =>
      complain i ("failed to open " ++ inPlainQuotes name ++ " for reading: " ++ e.text)
      return false
    | .ok descriptor =>
      let r ← passWhole i (fun t => (linesAfter mark [] [] t).reverse.flatten) descriptor
      closeInput name descriptor
      match r with
      | .ok () => return true
      | .error e =>
        complain i (bare (inputTitle name) ++ ": read error: " ++ e.text)
        return false) (inputNames o.operands)
  return codeOf good

/-! ## Endless and copied streams -/

def yesAfter (i : Invocation) (text : Octets) : Nat → Task Nat
  | 0 => pure 0
  | n + 1 => do
    match ← Task.tryWrite 1 text with
    | none => yesAfter i text n
    | some e => fail i 1 ("standard output: " ++ e.text)

/-- Says its arguments again and again. -/
def yes : Tool := fun i => do
  let o ← options (grammar "" []) i
  let line := (if o.operands.isEmpty then ['y'] else [' '].intercalate o.operands) ++ ['\n']
  yesAfter i (List.replicate (1024 / line.length + 1) line).flatten Task.limit

/-- Opens what can be opened of some files for writing. -/
def openAll (i : Invocation) (opening : Opening) :
    List Octets → Task (List (Octets × Nat) × Bool)
  | [] => pure ([], true)
  | name :: rest => do
    match ← Task.call (.opened name opening) with
    | .ok descriptor =>
      let (found, good) ← openAll i opening rest
      return ((name, descriptor) :: found, good)
    | .error e =>
      complainOf i name e
      return ((← openAll i opening rest).1, false)

/-- Writes to each place; one that cannot be written to is dropped. -/
def writeEach (i : Invocation) (text : Octets) :
    List (Octets × Nat) → Task (List (Octets × Nat) × Bool)
  | [] => pure ([], true)
  | (name, descriptor) :: rest => do
    match ← Task.tryWrite descriptor text with
    | none =>
      let (kept, good) ← writeEach i text rest
      return ((name, descriptor) :: kept, good)
    | some e =>
      complainOf i name e
      return ((← writeEach i text rest).1, false)

def teeAfter (i : Invocation) : Nat → List (Octets × Nat) → Bool → Task Bool
  | 0, _, good => pure good
  | n + 1, places, good => do
    match ← Task.call (.read 0 Task.chunkSize) with
    | .ok (c :: rest) =>
      let (places, written) ← writeEach i (c :: rest) places
      if places.isEmpty then return false
      else teeAfter i n places (good && written)
    | .ok [] => return good
    | .error e =>
      complain i ("read error: " ++ e.text)
      return false

/-- Copies its input to its output and to files. -/
def tee : Tool := fun i => do
  let o ← options (grammar "aip" [("append", "a"), ("ignore-interrupts", "i"),
    ("output-error?", "p")]) i
  let (places, good) ← openAll i (if o.has "a" then .append else .fresh) o.operands
  if o.has "i" then Task.call (.react 2 .ignored)
  return codeOf (← teeAfter i Task.limit ((word "standard output", 1) :: places) good)

end Worksheet.Host.Tools
