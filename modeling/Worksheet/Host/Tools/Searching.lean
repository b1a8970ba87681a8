-- The tool that looks for lines with patterns in them.
import Worksheet.Host.Tools.Glob
import Worksheet.Host.Tools.Regex
import Worksheet.Host.Tools.Streams

namespace Worksheet.Host.Tools

open Text (Octets)

namespace Searching

/-! ## What is looked for -/

/-- How lines are chosen and how they are shown. -/
structure Search where
  pattern : Option Regex
  comparison : Regex.Comparison
  inverted : Bool
  most : Option Nat
  before : Nat
  after : Nat
  parts : Bool
  numbered : Bool
  placed : Bool
  named : Bool
  nameEnd : Octets
  asText : Bool
  withoutBinary : Bool
  mark : Char

/-- What is told of an input: its lines, how many were chosen, or its name if some or none was. -/
inductive Report
  | lines
  | count
  | nameIfAny
  | nameIfNone
  | nothing
  deriving DecidableEq

/-- Digits of a class that only one kind of pattern knows. -/
def withDigitClass : Octets → Octets
  | '\\' :: 'd' :: rest => word "[0-9]" ++ withDigitClass rest
  | '\\' :: c :: rest => '\\' :: c :: withDigitClass rest
  | c :: rest => c :: withDigitClass rest
  | [] => []

/-- The pattern as it has to stand in a line: on its own, or as a word. -/
def placedIn (wholeLine asWord : Bool) (r : Regex) : Regex :=
  if wholeLine then .both (.edge .textStart) (.both r (.edge .textEnd))
  else if asWord then .both (.edge .noWordBefore) (.both r (.edge .noWordBehind))
  else r

/-- All patterns as one; nothing if there is none. -/
def together : List Regex → Option Regex
  | [] => none
  | r :: rest => some (rest.foldl .either r)

/-- A line is chosen. -/
def Search.chooses (s : Search) (line : Octets) : Bool :=
  let hit := match s.pattern with
    | none => false
    | some r => (r.find? s.comparison line).isSome
  hit != s.inverted

/-- All parts of a line that a pattern covers, with their places. -/
def partsOf (o : Regex.Comparison) (r : Regex) :
    Nat → (place : Nat) → Option Char → Octets → List (Nat × Octets)
  | 0, _, _, _ => []
  | n + 1, place, before, rest =>
    match r.findAfter o [] before rest with
    | none => []
    | some f =>
      let place := place + f.passed.length
      match f.text, f.rest with
      | [], [] => []
      | [], c :: rest => partsOf o r n (place + 1) (some c) rest
      | text, rest => (place, text) :: partsOf o r n (place + text.length) text.getLast? rest

/-! ## Telling -/

/-- A line with what stands before it; the sign divides the parts of that. -/
def Search.show (s : Search) (name : Octets) (sign : Char) (number place : Nat) (text : Octets) :
    Octets :=
  (if s.named then name ++ (if s.nameEnd.isEmpty then [sign] else s.nameEnd) else []) ++
  (if s.numbered then Octets.ofNat number ++ [sign] else []) ++
  (if s.placed then Octets.ofNat place ++ [sign] else []) ++ text ++ [s.mark]

/-- A line that is chosen, or its parts. -/
def Search.showChosen (s : Search) (name : Octets) (number place : Nat) (text : Octets) :
    List Octets :=
  if s.parts then
    match s.pattern with
    | some r =>
      if s.inverted then []
      else (partsOf s.comparison r (text.length + 1) 0 none text).map fun (at', part) =>
        s.show name ':' number (place + at') part
    | none => []
  else [s.show name ':' number place text]

/-- Octets that spell nothing stand in a text. -/
def isUnclear (text : Octets) : Bool :=
  text.any (fun c => 0x80 ≤ c.toNat) && (Quoting.piecesOf text).any fun p => match p with
    | .hidden c => 0x80 ≤ c.toNat
    | .shown _ => false

/-- What is known of an input on the way: the lines before that may be shown (latest first), how
many lines after are still to be shown, the number of the last line that was shown, how many lines
were chosen, whether a zero has been met, and whether a line was kept back because it is unclear. -/
structure Progress where
  earlier : List (Nat × Nat × Octets)
  due : Nat
  lastShown : Nat
  chosen : Nat
  zero : Bool
  keptBack : Bool

/-- Writes lines; one that is unclear is kept back. -/
def Search.write (i : Invocation) (s : Search) (p : Progress) (texts : List Octets) : Task Progress := do
  let hidden (t : Octets) : Bool := !s.asText && isUnclear t
  put i 2 (texts.filter fun t => !hidden t).flatten
  return { p with keptBack := p.keptBack || texts.any hidden }

/-- Looks through a stream. Shown lines are written at once; of a text with a zero in it none is. -/
def through (i : Invocation) (s : Search) (report : Report) (name : Octets) :
    Nat → (number place : Nat) → Progress → Stream → Task (Except Errno (Progress × Stream))
  | 0, _, _, p, stream => pure (.ok (p, stream))
  | n + 1, number, place, p, stream => do
    let finished := s.most.any fun m => m ≤ p.chosen
    if finished && p.due = 0 then return .ok (p, stream)
    match ← stream.line s.mark with
    | .error e => return .error e
    | .ok ([], stream) => return .ok (p, stream)
    | .ok (line, stream) =>
      let text := chomp s.mark line
      let next := place + line.length
      let zero := Char.ofNat 0
      let p := { p with zero := p.zero || !s.asText && line.contains zero }
      if !finished && s.chooses text then
        match report with
        | .lines => do
          if p.zero || !s.asText && stream.held.contains zero then
            if s.withoutBinary then return .ok ({ p with chosen := 0 }, stream)
            else return .ok ({ p with chosen := p.chosen + 1, keptBack := true }, stream)
          let earlier := (p.earlier.take s.before).reverse
          let first := (earlier.head?.map (·.1)).getD number
          let gap := (0 < s.before || 0 < s.after) && !s.parts && p.lastShown ≠ 0 &&
            p.lastShown + 1 < first
          let shown := if s.parts then [] else earlier.map fun (k, at', t) => s.show name '-' k at' t
          let p ← Search.write i s p ((if gap then [word "--\n"] else []) ++ shown ++
            s.showChosen name number place text)
          through i s report name n (number + 1) next
            { p with earlier := [], due := s.after, lastShown := number, chosen := p.chosen + 1 }
            stream
        | .count =>
          through i s report name n (number + 1) next { p with chosen := p.chosen + 1 } stream
        | _ => return .ok ({ p with chosen := p.chosen + 1 }, stream)
      else if 0 < p.due then
        let p ← if s.parts then pure p else Search.write i s p [s.show name '-' number place text]
        through i s report name n (number + 1) next
          { p with due := p.due - 1, lastShown := number, earlier := [] } stream
      else
        let earlier := if s.before = 0 then [] else
          ((number, place, text) :: p.earlier).take s.before
        through i s report name n (number + 1) next { p with earlier := earlier } stream

/-! ## Trees -/

/-- Files that a walk looks into. -/
structure Filter where
  includes : List Glob
  excludes : List Glob
  excludedDirectories : List Glob
  links : Bool

def Filter.keeps (f : Filter) (name : Octets) : Bool :=
  let last := shortName name
  let hit (g : Glob) : Bool := g.covers last || g.covers name
  !f.excludes.any hit && (f.includes.isEmpty || f.includes.any hit)

/-- The files at a name or below it. Links below are not followed unless that is asked for. -/
def filesIn (f : Filter) : Nat → (top : Bool) → Octets → Task (List Octets)
  | 0, _, _ => pure []
  | n + 1, top, name => do
    let path := if name.isEmpty then ['.'] else name
    let kind ← Task.call (.inspect path)
    let kind ← if kind.toOption == some .link && (top || f.links) then Task.call (.examine path)
      else pure kind
    match kind with
    | .ok .directory =>
      match ← Task.call (.list path) with
      | .error _ => return [path]
      | .ok names =>
        if !top && f.excludedDirectories.any fun g => g.covers (shortName name) then return []
        let found ← names.mapM fun c =>
          filesIn f n false (if name.isEmpty then c
            else if name.getLast? = some '/' then name ++ c else name ++ '/' :: c)
        return found.flatten
    | .ok .link => return []
    | .ok (.regular ..) => return if f.keeps name then [name] else []
    | .ok _ => return if top then [name] else []
    | .error _ => return [path]

end Searching

open Searching

def grepWords : List (String × String) :=
  [("extended-regexp", "E"), ("fixed-strings", "F"), ("basic-regexp", "G"), ("perl-regexp", "P"),
    ("regexp=", "e"), ("file=", "f"), ("ignore-case", "i"), ("no-ignore-case", "case"),
    ("word-regexp", "w"), ("line-regexp", "x"), ("null-data", "z"), ("no-messages", "s"),
    ("invert-match", "v"), ("max-count=", "m"), ("byte-offset", "b"), ("line-number", "n"),
    ("line-buffered", "buffered"), ("with-filename", "H"), ("no-filename", "h"), ("label=", "label"),
    ("only-matching", "o"), ("quiet", "q"), ("silent", "q"), ("binary-files=", "binary"),
    ("text", "a"), ("directories=", "d"), ("devices=", "D"), ("recursive", "r"),
    ("dereference-recursive", "R"), ("include=", "include"), ("exclude=", "exclude"),
    ("exclude-dir=", "excludeDir"), ("files-without-match", "L"), ("files-with-matches", "l"),
    ("count", "c"), ("initial-tab", "T"), ("null", "Z"), ("before-context=", "B"),
    ("after-context=", "A"), ("context=", "C"), ("color?", "color"), ("colour?", "color")]

/-- The options of the search for patterns. -/
def grepGrammar : Grammar :=
  { grammar "EFGPe:f:iywxzsvm:bnHhoqad:D:rRILlcTZB:A:C:U" grepWords with code := 2 }

/-- A number of lines may stand behind a dash alone. -/
def dashContext (words : List Octets) : List Octets :=
  words.flatMap fun w =>
    match w with
    | '-' :: c :: rest =>
      if c.isDigit && rest.all Char.isDigit then [word "-C", c :: rest] else [w]
    | w => [w]

/-- The last choice of the kind of patterns. -/
def grepKind (o : Options) (short : Octets) : String :=
  (o.lastOf ["E", "F", "G", "P"]).getD
    (if short = word "egrep" then "E" else if short = word "fgrep" then "F" else "G")

/-- A pattern as it is written, with what there is to warn of. -/
def grepPattern (i : Invocation) (kind : String) (text : Octets) : Task Regex := do
  if kind = "F" then return Regex.ofPlain text
  let text := if kind = "P" then withDigitClass text else text
  match Regex.ofText ⟨kind ≠ "G", true⟩ text with
  | .ok (r, _, warnings) =>
    warnings.forM fun w => complain i ("warning: " ++ w)
    return r
  | .error f => fail i 2 f.message

/-- The patterns of a command line and the files to look into. -/
def grepTexts (i : Invocation) (o : Options) : Task (List Octets × List Octets) := do
  let linesIn (text : Octets) : List Octets :=
    if text.isEmpty then [[]] else plainLines '\n' text
  let fromFiles ← (o.valuesOf "f").mapM fun name => do
    match ← readInput name with
    | .ok text => pure (plainLines '\n' text)
    | .error e => fail i 2 (name.spelled ++ ": " ++ e.text)
  match o.has "e" || o.has "f", o.operands with
  | true, files => return ((o.valuesOf "e").flatMap linesIn ++ fromFiles.flatten, files)
  | false, p :: files => return (linesIn p, files)
  | false, [] =>
    Task.errText ("Usage: " ++ i.name.spelled ++ " [OPTION]... PATTERNS [FILE]...\n")
    advise i 2

/-- A number of lines. -/
def grepNumber (i : Invocation) (o : Options) (key what : String) : Task (Option Nat) := do
  match o.value? key with
  | none => return none
  | some text =>
    match digits? text with
    | some n => return some n
    | none =>
      if key = "m" && text.head? = some '-' then return none
      else fail i 2 ((if key = "m" then "" else text.spelled ++ ": ") ++ what)

/-- Looks into one input, and tells of it. -/
def grepInput (i : Invocation) (o : Options) (s : Search) (report : Report) (name : Octets) :
    Task (Nat × Bool) := do
  let title := if name = ['-'] then (o.value? "label").getD (word "(standard input)") else name
  let bad (e : Errno) : Task (Nat × Bool) := do
    if !o.has "s" then complain i (title.spelled ++ ": " ++ e.text)
    return (0, false)
  match ← openInput name with
  | .error e => bad e
  | .ok descriptor =>
    let r ← through i s report title Task.limit 1 0 ⟨[], 0, 0, 0, false, false⟩
      (.ofDescriptor descriptor)
    match r with
    | .error e =>
      closeInput name descriptor
      bad e
    | .ok (p, stream) =>
      let n := p.chosen
      if name = ['-'] then stream.release
      closeInput name descriptor
      if p.keptBack then complain i (title.spelled ++ ": binary file matches")
      let nameLine := title ++ (if o.has "Z" then [Char.ofNat 0] else ['\n'])
      match report with
      | .count =>
        put i 2 ((if s.named then title ++ (if o.has "Z" then [Char.ofNat 0] else [':']) else []) ++
          Octets.ofNat n ++ ['\n'])
      | .nameIfAny => if n ≠ 0 then put i 2 nameLine
      | .nameIfNone => if n = 0 then put i 2 nameLine
      | _ => pure ()
      return (n, true)

/-- Looks into inputs one after the other; a search that tells nothing ends with the first hit. -/
def grepAll (i : Invocation) (o : Options) (s : Search) (report : Report) :
    (any good : Bool) → List Octets → Task (Bool × Bool)
  | any, good, [] => pure (any, good)
  | any, good, name :: rest => do
    let (n, readable) ← grepInput i o s report name
    let hit := if report = .nameIfNone then readable && n = 0 else n ≠ 0
    if report = .nothing && hit then Task.exit 0
    grepAll i o s report (any || hit) (good && readable) rest

/-- Looks for lines. The exit code says whether some were found. -/
def grep : Tool := fun i => do
  let o ← options grepGrammar { i with words := dashContext i.words }
  let (texts, files) ← grepTexts i o
  let kind := grepKind o (shortName i.name)
  let patterns ← texts.mapM (grepPattern i kind)
  let most ← grepNumber i o "m" "invalid max count"
  let context ← grepNumber i o "C" "invalid context length argument"
  let before ← grepNumber i o "B" "invalid context length argument"
  let after ← grepNumber i o "A" "invalid context length argument"
  let walks := o.has "r" || o.has "R" || o.value? "d" = some (word "recurse")
  let globs (key : String) : List Glob := (o.valuesOf key).map Glob.ofOctets
  let filter : Filter := ⟨globs "include", globs "exclude", globs "excludeDir", o.has "R"⟩
  let names ← if walks then do
      let found ← (if files.isEmpty then [[]] else files).mapM (filesIn filter 4096 true)
      pure found.flatten
    else pure (inputNames files)
  let one := files.length < 2 && !walks
  let named := match o.lastOf ["H", "h"] with
    | some k => k = "H"
    | none => !one
  let report : Report :=
    if o.has "q" then .nothing
    else match o.lastOf ["l", "L"] with
      | some "l" => .nameIfAny
      | some _ => .nameIfNone
      | none => if o.has "c" then .count else .lines
  let binary := o.value? "binary"
  let s : Search := {
    pattern := (together patterns).map (placedIn (o.has "x") (o.has "w"))
    comparison := ⟨(o.lastOf ["i", "y", "case"]).any (· ≠ "case"), false⟩
    inverted := o.has "v"
    most := most
    before := before.getD (context.getD 0)
    after := after.getD (context.getD 0)
    parts := o.has "o"
    numbered := o.has "n"
    placed := o.has "b"
    named := named
    nameEnd := if o.has "Z" then [Char.ofNat 0] else []
    asText := o.has "a" || o.has "z" || binary = some (word "text")
    withoutBinary := o.has "I" || binary = some (word "without-match")
    mark := lineMark o }
  if most = some 0 && report ≠ .nameIfNone then return 1
  let (any, good) ← grepAll i o s report false true names
  return if !good then 2 else codeOf any

end Worksheet.Host.Tools
