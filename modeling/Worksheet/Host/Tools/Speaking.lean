-- Tools that say something and read nothing: arguments, counts, names and places.
import Worksheet.Disk.Node
import Worksheet.Host.Tools.Options
import Worksheet.Host.Tools.Printing
import Worksheet.Text.Split

namespace Worksheet.Host.Tools

open Text (Octets)

/-! ## Truth -/

def truth : Tool := fun _ => pure 0

def falsehood : Tool := fun _ => pure 1

/-! ## Arguments -/

/-- An escape among spoken words. A number in base sixteen needs no digits, and a backslash that
begins no escape stands for itself. -/
def spokenEscape (text : Octets) : Printing.Escape :=
  match text with
  | 'x' :: rest =>
    if rest.head?.any Printing.isHexadecimal then Printing.toolEscape true text
    else .text ['\\', 'x'] rest
  | '"' :: rest => .text ['\\', '"'] rest
  | 'u' :: rest => .text ['\\', 'u'] rest
  | 'U' :: rest => .text ['\\', 'U'] rest
  | '0' :: rest =>
    if rest.head?.any Printing.isOctal then Printing.toolEscape true text
    else .text [Char.ofNat 0] rest
  | text => Printing.toolEscape true text

/-- Prints its arguments; escapes are carried out only when asked for. -/
def echo : Tool := fun i => do
  let isOption (w : Octets) : Bool := match w with
    | '-' :: c :: rest => (c :: rest).all fun c => c = 'n' || c = 'e' || c = 'E'
    | _ => false
  let letters := (i.words.takeWhile isOption).flatten.filter (· ≠ '-')
  let text := [' '].intercalate (i.words.dropWhile isOption)
  let ended : Octets := if letters.contains 'n' then [] else ['\n']
  if (letters.filter (· ≠ 'n')).getLast? = some 'e' then
    let u := Printing.unescapeAfter spokenEscape (text.length + 1) [] text
    put i 1 (if u.stopped then u.text else u.text ++ ended)
  else put i 1 (text ++ ended)
  return 0

/-- What is wrong with an argument, in the words of a tool. -/
def printfComplaint : Printing.Complaint → String
  | .notNumeric a => inQuotes a ++ ": expected a numeric value"
  | .notAll a => inQuotes a ++ ": value not completely converted"
  | .outside a => inQuotes a ++ ": Numerical result out of range"
  | .afterQuoted rest => "warning: " ++ rest.spelled ++
      ": character(s) following character constant have been ignored"

/-- Only a warning does not spoil the exit code. -/
def isWarning : Printing.Complaint → Bool
  | .afterQuoted _ => true
  | _ => false

/-- Why a format cannot be carried out, in the words of a tool. -/
def printfObstacle : Printing.Obstacle → String
  | .unended => ""
  | .unknown directive => directive.spelled ++ ": invalid conversion specification"
  | .noDigits => "missing hexadecimal number in escape"
  | .noCharacter letter digits =>
    "invalid universal character name \\" ++ Octets.spelled (letter :: digits)
  | .wrongWidth a => "invalid field width: " ++ inQuotes a
  | .wrongPrecision a => "invalid precision: " ++ inQuotes a

/-- Prints its arguments in a format. The end of all output is no failure. -/
def printf : Tool := fun i => do
  let words := if i.words.head? = some ['-', '-'] then i.words.drop 1 else i.words
  match words with
  | [] => misuse i 1 "missing operand"
  | format :: arguments =>
    let f := Printing.printf .tool format arguments
    f.complaints.forM fun c => complain i (printfComplaint c)
    match f.obstacle with
    | some o =>
      let _ ← Task.out f.printed.reverse
      fail i 1 (printfObstacle o)
    | none =>
      if !f.stopped then
        match f.arguments with
        | [] => pure ()
        | a :: _ => complain i ("warning: ignoring excess arguments, starting with " ++ inQuotes a)
      put i 1 f.printed.reverse
      return codeOf (f.stopped || f.complaints.all isWarning)

/-! ## Counting -/

/-- A number of a count: its value, how wide it is in the usual notation, and how many digits stand
behind its point, if that can be told. -/
structure CountNumber where
  value : Floating
  width : Int
  places : Option Nat

def CountNumber.one : CountNumber := ⟨.ofNat .extended 1, 1, some 0⟩

/-- The power behind the first letter for it. -/
def powerIn (text : Octets) : Option (Int × Nat) :=
  let before := text.takeWhile fun c => c ≠ 'e' && c ≠ 'E'
  if before.length = text.length then none
  else some ((Floating.exponentAt 'e' (text.drop before.length)).1, text.length - before.length)

/-- How wide a decimal number is when it is written without a power, and how many digits it has
behind its point. -/
def countShape (text : Octets) : Int × Option Nat :=
  let pointed := text.contains '.'
  let before := text.takeWhile (· ≠ '.')
  let places := ((text.drop (before.length + 1)).takeWhile fun c => c ≠ 'e' && c ≠ 'E').length
  let width : Int := text.length
  let width := if !pointed then width
    else if places = 0 then width - 1
    else if before.getLast?.any Char.isDigit then width else width + 1
  match powerIn text with
  | none => (width, some places)
  | some (power, size) =>
    let width := width - size
    let kept : Int := if power < 0 then places - power else places - min (places : Int) power
    if power < 0 then
      let grown : Int := if !pointed || places = 0 then width + 1 else width
      (grown - power, some kept.toNat)
    else
      let shrunk : Int := if pointed && kept = 0 && places ≠ 0 then width - 1 else width
      (shrunk + (power - min (places : Int) power), some kept.toNat)

def countNumber (i : Invocation) (text : Octets) : Task CountNumber := do
  let read := Floating.read .extended text
  if text.isEmpty || !read.rest.isEmpty then
    misuse i 1 ("invalid floating point argument: " ++ inQuotes text)
  else
    let plain := text.dropWhile fun c => c = ' ' || c = '+' || (9 ≤ c.toNat && c.toNat ≤ 13)
    match read.value with
    | .nan _ => misuse i 1 ("invalid " ++ inQuotes (word "not-a-number") ++ " argument: " ++
        inQuotes text)
    | .infinite negative => return ⟨.infinite negative, 0, some 0⟩
    | value =>
      if plain.any fun c => c = 'x' || c = 'X' then
        return ⟨value, 0, if plain.any fun c => c = '.' || c = 'p' then none else some 0⟩
      else
        let (width, places) := countShape plain
        return ⟨value, width, places⟩

/-- A number as an exact fraction. -/
def exact (places : Nat) : Floating → Option Rat
  | .finite negative m e =>
    let (num, den) := Floating.fraction m e
    let n := Double.nearest (num * Nat.pow 10 places) den
    some (mkRat (if negative then -(n : Int) else n) (Nat.pow 10 places))
  | _ => none

/-- The decimal digits that are looked at in numbers of a count. -/
def countDigits : Nat := 18

/-- Where a count goes: its first number, its step, and its last number unless it has no end. -/
structure CountWay where
  first : Rat
  step : Rat
  last : Option Rat

/-- Whether a number is past the end. -/
def CountWay.isPast (w : CountWay) (x : Rat) : Bool :=
  match w.last with
  | some last => if w.step < 0 then x < last else last < x
  | none => false

/-- The format of a count that has been given one: what stands before the directive, the directive,
and what stands behind. -/
structure CountFormat where
  before : Octets
  directive : Printing.Directive
  letter : Char
  after : Octets

/-- A text in which two percent signs stand for one, up to a single one. -/
def upToDirective : Octets → Octets × Octets
  | '%' :: '%' :: rest =>
    let (text, rest) := upToDirective rest
    ('%' :: text, rest)
  | '%' :: rest => ([], '%' :: rest)
  | c :: rest =>
    let (text, rest) := upToDirective rest
    (c :: text, rest)
  | [] => ([], [])

def countFormat (i : Invocation) (text : Octets) : Task CountFormat := do
  let named := "format " ++ inQuotes text
  let (before, rest) := upToDirective text
  match rest with
  | [] => fail i 1 (named ++ " has no % directive")
  | _ :: rest =>
    let flags := rest.takeWhile fun c => "-+#0 '".toList.contains c
    let rest := rest.drop flags.length
    let width := rest.takeWhile Char.isDigit
    let rest := rest.drop width.length
    let (precision, rest) : Option Nat × Octets := match rest with
      | '.' :: rest =>
        let ds := rest.takeWhile Char.isDigit
        (some (Printing.numberIn ds), rest.drop ds.length)
      | rest => (none, rest)
    let rest := if rest.head? = some 'L' then rest.drop 1 else rest
    match rest with
    | [] => fail i 1 (named ++ " ends in %")
    | letter :: rest =>
      if !"efgaEFGA".toList.contains letter then
        fail i 1 (named ++ " has unknown %" ++ Octets.spelled [letter] ++ " directive")
      else
        let (after, more) := upToDirective rest
        if !more.isEmpty then fail i 1 (named ++ " has too many % directives")
        let plain := Printing.flagsOf flags
        return ⟨before, { plain with width := Printing.numberIn width, precision := precision },
          letter, after⟩

def CountFormat.text (f : CountFormat) (x : Rat) : Octets :=
  let number := Floating.ofFraction .extended (x < 0) x.num.natAbs x.den
  let form := (Printing.formOf? f.letter).getD .general
  f.before ++ Printing.floatingText .extended f.directive form f.letter.isUpper number ++ f.after

/-- So many numbers of a count, the earliest one first. -/
def countTexts (write : Rat → Octets) (w : CountWay) : Nat → Nat → List Octets
  | 0, _ => []
  | n + 1, k =>
    let x := w.first + w.step * k
    if w.isPast x then [] else write x :: countTexts write w n (k + 1)

/-- How many numbers are written at once. -/
def countChunk : Nat := 512

/-- Writes the numbers of a count chunk by chunk; a separator stands before each but the first. -/
def writeCount (i : Invocation) (write : Rat → Octets) (separator : Octets) (w : CountWay) :
    Nat → Nat → Task Unit
  | 0, _ => pure ()
  | n + 1, k => do
    let texts := countTexts write w countChunk k
    put i 1 (texts.zipIdx.flatMap fun (t, j) => if k + j = 0 then t else separator ++ t)
    if texts.length = countChunk then writeCount i write separator w n (k + countChunk)
    else if k + texts.length ≠ 0 then put i 1 ['\n']
    else pure ()

/-- The usual format: as many digits behind the point as the first number and the step have, and
with zeros in front where all are to be of one width. -/
def usualFormat (equal : Bool) (first step last : CountNumber) : CountFormat :=
  let plain := Printing.flagsOf []
  match first.places, step.places, last.places with
  | some a, some b, some c =>
    let places := max a b
    let pointFor (n : Nat) : Int := if n = 0 && places ≠ 0 then 1 else 0
    let firstWidth := first.width + (places - a : Int) + pointFor a
    let lastWidth := last.width + ((places : Int) - c) + pointFor c -
      (if c ≠ 0 && places = 0 then 1 else 0)
    let width := if equal then (max firstWidth lastWidth).toNat else 0
    ⟨[], { plain with zero := equal, width := width, precision := some places }, 'f', []⟩
  | _, _, _ => ⟨[], plain, 'g', []⟩

/-- How many words stand before the first number, which may be negative: the options. -/
def wordsBefore : List Octets → Nat
  | ('-' :: '-' :: text) :: rest =>
    if text.isEmpty then 1
    else if text.contains '=' || !(text = word "format" || text = word "separator") then
      1 + wordsBefore rest
    else 2 + wordsBefore (rest.drop 1)
  | ('-' :: c :: more) :: rest =>
    if c = '.' || c.isDigit then 0
    else
      let taking := (c :: more).dropWhile (· = 'w')
      if (taking = ['f'] || taking = ['s']) && !rest.isEmpty then 2 + wordsBefore (rest.drop 1)
      else 1 + wordsBefore rest
  | _ => 0
termination_by words => words.length

/-- Counts in steps. -/
def seq : Tool := fun i => do
  let count := wordsBefore i.words
  let o ← options { grammar "f:s:w" [("equal-width", "w"), ("format=", "f"), ("separator=", "s")]
    with operandsLast := true } { i with words := i.words.take count }
  let o := { o with operands := i.words.drop count }
  needOperands i o 1
  limitOperands i o 3
  let chosen ← match o.value? "f" with
    | some text =>
      let f ← countFormat i text
      if o.has "w" then
        misuse i 1 "format string may not be specified when printing equal width strings"
      pure (some f)
    | none => pure none
  let numbers ← o.operands.mapM (countNumber i)
  let (first, step, last) : CountNumber × CountNumber × CountNumber := match numbers with
    | [last] => (.one, .one, last)
    | [first, last] => (first, .one, last)
    | first :: step :: last :: _ => (first, step, last)
    | [] => (.one, .one, .one)
  match exact countDigits first.value, exact countDigits step.value with
  | some a, some d =>
    if d = 0 then
      misuse i 1 ("invalid Zero increment value: " ++ inQuotes (o.operands.getD 1 []))
    let format := chosen.getD (usualFormat (o.has "w") first step last)
    let separator := (o.value? "s").getD ['\n']
    match last.value with
    | .infinite negative =>
      if negative = (d < 0) then
        writeCount i format.text separator ⟨a, d, none⟩ Task.limit 0
    | value => writeCount i format.text separator ⟨a, d, exact countDigits value⟩ Task.limit 0
    return 0
  | _, _ => return 0

/-! ## Names -/

def baseName (name : Octets) : Octets :=
  let t := Way.trimSlashes name
  if t = ['/'] then t else Text.afterLast '/' t

def directoryName (name : Octets) : Octets :=
  let t := Way.trimSlashes name
  if t = ['/'] then t
  else if t.contains '/' then
    let d := Way.trimSlashes (Text.beforeLast '/' t)
    if d.isEmpty then ['/'] else d
  else ['.']

/-- Ends a name without the given suffix, unless nothing would be left. -/
def dropSuffix (suffix name : Octets) : Octets :=
  if Text.endsWith suffix name && suffix.length < name.length then
    name.take (name.length - suffix.length)
  else name

def nameEnd (o : Options) : Octets := if o.has "z" then [Char.ofNat 0] else ['\n']

/-- The last component of a name. -/
def basename : Tool := fun i => do
  let o ← options { grammar "as:z" [("multiple", "a"), ("suffix=", "s"), ("zero", "z")] with
    operandsLast := true } i
  needOperands i o 1
  let write (suffix : Octets) (names : List Octets) : Task Unit :=
    put i 1 (names.flatMap fun n => dropSuffix suffix (baseName n) ++ nameEnd o)
  match o.operands, o.has "a" || o.has "s" with
  | names, true => write ((o.value? "s").getD []) names
  | names, false =>
    limitOperands i o 2
    write (names.getD 1 []) (names.take 1)
  return 0

/-- A name without its last component. -/
def dirname : Tool := fun i => do
  let o ← options { grammar "z" [("zero", "z")] with operandsLast := true } i
  needOperands i o 1
  put i 1 (o.operands.flatMap fun n => directoryName n ++ nameEnd o)
  return 0

/-! ## The place and the system -/

/-- The working directory. -/
def workingDirectory : Tool := fun i => do
  let o ← options (grammar "LP" [("logical", "L"), ("physical", "P")]) i
  if !o.operands.isEmpty then complain i "ignoring non-option arguments"
  let place : Octets ← Task.call .whereabouts
  match o.lastOf ["L", "P"], i.environment.lookup (word "PWD") with
  | some "L", some named =>
    match ← Task.call (.resolve named) with
    | .ok found =>
      let usable := named.head? = some '/' && found = place
      put i 1 ((if usable then named else place) ++ ['\n'])
    | .error _ => put i 1 (place ++ ['\n'])
  | _, _ => put i 1 (place ++ ['\n'])
  return 0

/-- Variables by name, or all of them. -/
def printenv : Tool := fun i => do
  let o ← options { grammar "0" [("null", "0")] with operandsLast := true, code := 2 } i
  let mark : Char := if o.has "0" then Char.ofNat 0 else '\n'
  match o.operands with
  | [] =>
    put i 2 (i.environment.flatMap fun (k, v) => k ++ '=' :: v ++ [mark])
    return 0
  | names =>
    let found := names.map fun n => i.environment.lookup n
    put i 2 (found.flatMap fun v => match v with
      | some v => v ++ [mark]
      | none => [])
    return codeOf (found.all Option.isSome)

/-- The name of the user, who may do everything. -/
def whoami : Tool := fun i => do
  let o ← options (grammar "" []) i
  limitOperands i o 0
  put i 1 (word "root\n")
  return 0

/-- Who the user is, by number or by name. -/
def identity : Tool := fun i => do
  let o ← options (grammar "agGnruZz" [("group", "g"), ("groups", "G"), ("name", "n"), ("real", "r"),
    ("user", "u"), ("zero", "z")]) i
  let one := o.has "u" || o.has "g" || o.has "G"
  if o.has "n" && !one then fail i 1 "cannot print only names or real IDs in default format"
  put i 1 (word (if !one then "uid=0(root) gid=0(root) groups=0(root)\n"
    else if o.has "n" then "root\n" else "0\n"))
  return 0

/-- What the system is. -/
def uname : Tool := fun i => do
  let o ← options (grammar "asnrvmpio" [("all", "a"), ("kernel-name", "s"), ("nodename", "n"),
    ("kernel-release", "r"), ("kernel-version", "v"), ("machine", "m"), ("processor", "p"),
    ("hardware-platform", "i"), ("operating-system", "o")]) i
  limitOperands i o 0
  let parts : List (String × String) :=
    [("s", "Linux"), ("n", "localhost"), ("r", "6.1.0"), ("v", "#1 SMP"), ("m", "x86_64"),
      ("o", "GNU/Linux")]
  let shown := parts.filter fun (key, _) => o.has key || o.has "a"
  let shown := if shown.isEmpty then parts.take 1 else shown
  put i 1 (word (" ".intercalate (shown.map (·.2)) ++ "\n"))
  return 0

end Worksheet.Host.Tools
