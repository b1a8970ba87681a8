-- Inputs of tools: files and the standard input, as a whole or line by line.
import Worksheet.Host.Tools.Options

namespace Worksheet.Host.Tools

open Text (Octets)

/-! ## Opening -/

/-- Opens a file for reading; a single dash is the standard input. -/
def openInput (name : Octets) : Task (Except Errno Nat) :=
  if name = ['-'] then pure (.ok 0) else Task.call (.opened name .read)

def closeInput (name : Octets) (descriptor : Nat) : Task Unit :=
  if name = ['-'] then pure () else Task.call (.close descriptor)

/-- The files that a tool reads: the standard input when none is named. -/
def inputNames (operands : List Octets) : List Octets :=
  if operands.isEmpty then [['-']] else operands

/-- Everything up to the end of a stream, or why it cannot be read. -/
def readDescriptor (descriptor : Nat) : Task (Except Errno Octets) := do
  match ← Task.call (.read descriptor 0) with
  | .error e => return .error e
  | .ok _ => return .ok (← Task.readAll descriptor)

/-- The whole content of a file. -/
def readInput (name : Octets) : Task (Except Errno Octets) := do
  match ← openInput name with
  | .error e => return .error e
  | .ok descriptor =>
    let text ← readDescriptor descriptor
    closeInput name descriptor
    return text

/-- The contents of the inputs that can be read; each of the others is told of, and the flag says
whether there was none. -/
def readInputsOr (tell : Octets → Errno → Task Unit) :
    List Octets → Task (List (Octets × Octets) × Bool)
  | [] => pure ([], true)
  | name :: rest => do
    match ← readInput name with
    | .ok text =>
      let (found, good) ← readInputsOr tell rest
      return ((name, text) :: found, good)
    | .error e =>
      tell name e
      let (found, _) ← readInputsOr tell rest
      return (found, false)

def readInputs (i : Invocation) : List Octets → Task (List (Octets × Octets) × Bool) :=
  readInputsOr (complainOf i)

/-! ## Lines of a text -/

/-- The lines of a text, each with its end if it has one, after those found (latest first). -/
def linesAfter (mark : Char) (found : List Octets) (line : Octets) : Octets → List Octets
  | [] => (if line.isEmpty then found else line.reverse :: found).reverse
  | c :: rest =>
    if c = mark then linesAfter mark ((c :: line).reverse :: found) [] rest
    else linesAfter mark found (c :: line) rest

def chomp (mark : Char) (line : Octets) : Octets :=
  if line.getLast? = some mark then line.dropLast else line

/-- The lines of a text without their ends. -/
def plainLines (mark : Char) (text : Octets) : List Octets :=
  (linesAfter mark [] [] text).map (chomp mark)

def unlines (mark : Char) (lines : List Octets) : Octets := lines.flatMap fun l => l ++ [mark]

/-- The mark that ends lines: a line feed, or a zero where that is asked for. -/
def lineMark (o : Options) : Char := if o.has "z" then Char.ofNat 0 else '\n'

/-! ## Lines of a stream -/

/-- A stream that is read line by line: its descriptor, what has been read and not been used, and
whether its end has been reached. -/
structure Stream where
  descriptor : Nat
  held : Octets
  ended : Bool

/-- Splits a text behind the first mark in it, after what has been passed (latest first). -/
def cutAtMark (mark : Char) (passed : Octets) : Octets → Option (Octets × Octets)
  | [] => none
  | c :: rest =>
    if c = mark then some ((c :: passed).reverse, rest) else cutAtMark mark (c :: passed) rest

namespace Stream

def ofDescriptor (descriptor : Nat) : Stream := ⟨descriptor, [], false⟩

def lineAfter (mark : Char) : Nat → List Octets → Stream → Task (Except Errno (Octets × Stream))
  | 0, _, s => pure (.ok ([], s))
  | n + 1, found, s => do
    match cutAtMark mark [] s.held with
    | some (line, rest) =>
      return .ok ((line :: found).reverse.flatten, { s with held := rest })
    | none =>
      let found := if s.held.isEmpty then found else s.held :: found
      if s.ended then return .ok (found.reverse.flatten, { s with held := [] })
      else match ← Task.call (.read s.descriptor Task.chunkSize) with
        | .error e => return .error e
        | .ok (chunk : Octets) =>
          lineAfter mark n found { s with held := chunk, ended := chunk.isEmpty }

/-- The next line with its end; an empty one says that there is none. -/
def line (mark : Char) (s : Stream) : Task (Except Errno (Octets × Stream)) :=
  lineAfter mark Task.limit [] s

/-- Gives back what has been read too much, where the input can be wound back. -/
def release (s : Stream) : Task Unit := do
  if !s.held.isEmpty then
    let _ ← Task.call (.rewind s.descriptor s.held.length)

end Stream

/-! ## Numbers -/

/-- A whole number of digits only. -/
def digits? (text : Octets) : Option Nat :=
  if text.isEmpty || !text.all Char.isDigit then none
  else some (text.foldl (fun n c => 10 * n + (c.toNat - '0'.toNat)) 0)

/-- Powers that letters behind a count stand for. -/
def unitPowers : List (Char × Nat) :=
  [('k', 1), ('K', 1), ('m', 2), ('M', 2), ('G', 3), ('T', 4), ('P', 5), ('E', 6), ('Z', 7),
    ('Y', 8), ('R', 9), ('Q', 10)]

/-- What a unit behind a count multiplies it with. -/
def unit? (text : Octets) : Option Nat :=
  match text with
  | [] => some 1
  | ['b'] => some 512
  | c :: rest =>
    (unitPowers.lookup c).bind fun power =>
      match rest with
      | [] => some (Nat.pow 1024 power)
      | ['i', 'B'] => some (Nat.pow 1024 power)
      | ['B'] => some (Nat.pow 1000 power)
      | _ => none

/-- A count with a unit behind it, which may stand alone. -/
def count? (text : Octets) : Option Nat :=
  let body := text.dropWhile fun c => c = ' ' || c = '\t'
  let body := match body with
    | '+' :: r => r
    | r => r
  let ds := body.takeWhile Char.isDigit
  match body.drop ds.length with
  | [] => digits? ds
  | unit => if body.isEmpty then none else (unit? unit).map fun u => ((digits? ds).getD 1) * u

end Worksheet.Host.Tools
