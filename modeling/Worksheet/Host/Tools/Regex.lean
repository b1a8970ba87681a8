-- Regular expressions in their basic and their extended form. A match begins as early as it can,
-- and is as long as it can be from there; among matches of one length the first way to reach it
-- counts.
import Worksheet.Text.Octets

namespace Worksheet.Host

open Text (Octets)

/-- Edges of words, lines and the whole text. -/
inductive Edge
  | lineStart
  | lineEnd
  | textStart
  | textEnd
  | wordStart
  | wordEnd
  | wordEdge
  | noEdge
  | noWordBefore
  | noWordBehind
  deriving DecidableEq, Repr

inductive Regex
  | nothing
  | char (c : Char)
  | any
  | oneOf (inverted : Bool) (ranges : List (Char × Char))
  | edge (e : Edge)
  | group (number : Nat) (r : Regex)
  | back (number : Nat)
  | both (a b : Regex)
  | either (a b : Regex)
  | many (r : Regex) (least : Nat) (most : Option Nat)
  deriving Repr

namespace Regex

/-! ## What can be wrong -/

inductive Fault
  | bracket
  | opened
  | closed
  | brace
  | bounds
  | size
  | range
  | className
  | classSyntax
  | reference
  | backslash
  | repetition
  deriving DecidableEq, Repr

def Fault.message : Fault → String
  | bracket => "Unmatched [, [^, [:, [., or [="
  | opened => "Unmatched ( or \\("
  | closed => "Unmatched ) or \\)"
  | brace => "Unmatched \\\x7b"
  | bounds => "Invalid content of \\\x7b\\\x7d"
  | size => "Regular expression too big"
  | range => "Invalid range end"
  | className => "Invalid character class name"
  | classSyntax => "character class syntax is [[:space:]], not [:space:]"
  | reference => "Invalid back reference"
  | backslash => "Trailing backslash"
  | repetition => "Invalid preceding regular expression"

/-! ## Sets -/

/-- The characters of named classes. -/
def classes : List (String × List (Char × Char)) :=
  [("alpha", [('A', 'Z'), ('a', 'z')]), ("digit", [('0', '9')]),
    ("alnum", [('0', '9'), ('A', 'Z'), ('a', 'z')]), ("upper", [('A', 'Z')]),
    ("lower", [('a', 'z')]), ("space", [('\t', '\x0d'), (' ', ' ')]),
    ("blank", [('\t', '\t'), (' ', ' ')]),
    ("punct", [('!', '/'), (':', '@'), ('[', Char.ofNat 96), ('\x7b', '~')]),
    ("print", [(' ', '~')]), ("graph", [('!', '~')]),
    ("cntrl", [(Char.ofNat 0, '\x1f'), ('\x7f', '\x7f')]),
    ("xdigit", [('0', '9'), ('A', 'F'), ('a', 'f')])]

def wordRanges : List (Char × Char) := [('0', '9'), ('A', 'Z'), ('_', '_'), ('a', 'z')]

def spaceRanges : List (Char × Char) := [('\t', '\x0d'), (' ', ' ')]

/-- A member of a set: one character, which may begin a range, or a class. -/
inductive Member
  | one (c : Char)
  | several (ranges : List (Char × Char))

/-- A member between inner brackets, after the sign behind the first of them. -/
def innerMember (sign : Char) (text : Octets) : Except Fault (Member × Octets) :=
  let name := text.takeWhile (· ≠ sign)
  match text.drop name.length with
  | _ :: ']' :: rest =>
    if sign = ':' then
      match classes.lookup (String.ofList name) with
      | some ranges => .ok (.several ranges, rest)
      | none => .error .className
    else match name with
      | [c] => .ok (.one c, rest)
      | _ => .error .className
  | _ => .error .bracket

def member (text : Octets) : Except Fault (Member × Octets) :=
  match text with
  | '[' :: ':' :: rest => innerMember ':' rest
  | '[' :: '.' :: rest => innerMember '.' rest
  | '[' :: '=' :: rest => innerMember '=' rest
  | c :: rest => .ok (.one c, rest)
  | [] => .error .bracket

/-- The members of a set up to the closing bracket, after those found. A bracket that comes first is
a member. -/
def membersAfter : Nat → (first : Bool) → List (Char × Char) → Octets →
    Except Fault (List (Char × Char) × Octets)
  | 0, _, _, _ => .error .bracket
  | n + 1, first, found, text => do
    match first, text with
    | _, [] => .error .bracket
    | false, ']' :: rest => .ok (found, rest)
    | _, text =>
      match ← member text with
      | (.several ranges, rest) => membersAfter n false (ranges ++ found) rest
      | (.one low, '-' :: c :: rest) =>
        if c = ']' then membersAfter n false ((low, low) :: found) ('-' :: c :: rest)
        else match ← member (c :: rest) with
          | (.several _, _) => .error .range
          | (.one high, rest) =>
            if high < low then .error .range
            else membersAfter n false ((low, high) :: found) rest
      | (.one c, rest) => membersAfter n false ((c, c) :: found) rest

/-- A set, after its opening bracket. -/
def setAt (text : Octets) : Except Fault (Regex × Octets) := do
  let (inverted, body) := match text with
    | '^' :: rest => (true, rest)
    | rest => (false, rest)
  let (ranges, rest) ← membersAfter (body.length + 1) true [] body
  let written := body.take (body.length - rest.length - 1)
  if 1 < written.length && written.head? = some ':' && written.getLast? = some ':' then
    .error .classSyntax
  else .ok (.oneOf inverted ranges, rest)

/-! ## Reading -/

/-- How patterns are written: in the extended form or in the basic one, and whether signs that have
nothing to repeat are let pass. -/
structure Form where
  extended : Bool
  lenient : Bool

/-- What is left of a pattern, how many groups have been opened and how many of them are not closed,
which ones are, and what there is to warn of. -/
structure Source where
  rest : Octets
  groups : Nat
  depth : Nat
  closedGroups : List Nat
  warnings : List String

abbrev Reader := StateT Source (Except Fault)

def skip (count : Nat) : Reader Unit := modify fun s => { s with rest := s.rest.drop count }

/-- The greatest number of repetitions. -/
def mostRepetitions : Nat := 32767

def number (digits : Octets) : Nat :=
  digits.foldl (fun n c => 10 * n + (c.toNat - '0'.toNat)) 0

/-- The bounds of a repetition, and what follows them. -/
def boundsAt (text : Octets) : Option (Nat × Option Nat) × Octets :=
  let low := text.takeWhile Char.isDigit
  match text.drop low.length with
  | ',' :: rest =>
    let high := rest.takeWhile Char.isDigit
    (some (number low, if high.isEmpty then none else some (number high)), rest.drop high.length)
  | rest => (if low.isEmpty then none else some (number low, some (number low)), rest)

/-- The repetition after an opening brace; nothing if the brace is a plain character. -/
def repetitionAt (f : Form) (text : Octets) :
    Except Fault (Option (Nat × Option Nat × Octets)) :=
  let (bounds, rest) := boundsAt text
  let closed : Option Octets := match f.extended, rest with
    | true, '}' :: rest => some rest
    | false, '\\' :: '}' :: rest => some rest
    | _, _ => none
  match bounds, closed with
  | some (low, high), some rest =>
    if high.any fun h => h < low then .error .bounds
    else if mostRepetitions < low || high.any fun h => mostRepetitions < h then .error .size
    else .ok (some (low, high, rest))
  | _, _ =>
    if f.extended && f.lenient then .ok none
    else if rest.isEmpty || bounds.isNone && !rest.contains '}' then .error .brace
    else .error .bounds

/-- A sign of repetition at the front: its length, how often, and how a warning names it. -/
def signAt (f : Form) (text : Octets) :
    Except Fault (Option (Nat × Option Nat × Octets × String)) := do
  let brace (rest : Octets) : Except Fault (Option (Nat × Option Nat × Octets × String)) := do
    match ← repetitionAt f rest with
    | some (low, high, rest) => return some (low, high, rest, "\x7b...\x7d")
    | none => return none
  match f.extended, text with
  | _, '*' :: rest => return some (0, none, rest, "*")
  | true, '+' :: rest => return some (1, none, rest, "+")
  | true, '?' :: rest => return some (0, some 1, rest, "?")
  | true, '{' :: rest => brace rest
  | false, '\\' :: '+' :: rest => return some (1, none, rest, "+")
  | false, '\\' :: '?' :: rest => return some (0, some 1, rest, "?")
  | false, '\\' :: '{' :: rest => brace rest
  | _, _ => return none

/-- The signs of repetition that follow something. -/
def repeated (f : Form) : Nat → Regex → Reader Regex
  | 0, r => pure r
  | n + 1, r => do
    match ← (signAt f (← get).rest : Except Fault _) with
    | some (low, high, rest, _) =>
      modify fun s => { s with rest := rest }
      repeated f n (.many r low high)
    | none => return r

/-- The end of a branch comes next. -/
def atBranchEnd (f : Form) (s : Source) : Bool :=
  match f.extended, s.rest with
  | _, [] => true
  | true, '|' :: _ => true
  | true, ')' :: _ => 0 < s.depth
  | false, '\\' :: '|' :: _ => true
  | false, '\\' :: ')' :: _ => true
  | _, _ => false

/-- What a backslash makes of the character after it. -/
def escaped (c : Char) : Option Regex :=
  match c with
  | 'w' => some (.oneOf false wordRanges)
  | 'W' => some (.oneOf true wordRanges)
  | 's' => some (.oneOf false spaceRanges)
  | 'S' => some (.oneOf true spaceRanges)
  | 'b' => some (.edge .wordEdge)
  | 'B' => some (.edge .noEdge)
  | '<' => some (.edge .wordStart)
  | '>' => some (.edge .wordEnd)
  | '\'' => some (.edge .textEnd)
  | c => if c = Char.ofNat 96 then some (.edge .textStart) else none

mutual

/-- Branches up to the end, or to the end of a group. -/
def branches (f : Form) : Nat → Reader Regex
  | 0 => throw .size
  | n + 1 => do
    let r ← sequence f n true .nothing
    match f.extended, (← get).rest with
    | true, '|' :: _ =>
      skip 1
      return .either r (← branches f n)
    | false, '\\' :: '|' :: _ =>
      skip 2
      return .either r (← branches f n)
    | _, _ => return r

/-- Parts of a branch one after the other. -/
def sequence (f : Form) : Nat → (first : Bool) → Regex → Reader Regex
  | 0, _, r => pure r
  | n + 1, first, r => do
    let s ← get
    if atBranchEnd f s then return r
    else
      let sign ← if first then (signAt f s.rest : Except Fault _) else pure none
      match sign with
      | some (_, _, rest, name) =>
        if f.extended then
          if f.lenient then
            set { s with
              rest := rest, warnings := s.warnings ++ [name ++ " at start of expression"] }
            sequence f n true r
          else throw .repetition
        else if name = "\x7b...\x7d" && !f.lenient then throw .repetition
        else
          let plain := if name = "*" then 1 else 2
          skip plain
          let a ← repeated f n (.char ((s.rest.take plain).getLast?.getD '*'))
          sequence f n false (.both r a)
      | none =>
        let a ← part f n first
        let isStart := match a with
          | .edge .lineStart => true
          | _ => false
        if isStart then sequence f n true (.both r a)
        else
          let a ← repeated f n a
          sequence f n false (.both r a)

/-- A group, after its opening bracket. -/
def groupAt (f : Form) : Nat → Reader Regex
  | 0 => throw .size
  | n + 1 => do
    let k := (← get).groups + 1
    modify fun s => { s with groups := k, depth := s.depth + 1 }
    let r ← branches f n
    match f.extended, (← get).rest with
    | true, ')' :: _ => skip 1
    | false, '\\' :: ')' :: _ => skip 2
    | _, _ => throw .opened
    modify fun s => { s with depth := s.depth - 1, closedGroups := k :: s.closedGroups }
    return .group k r

def part (f : Form) : Nat → (first : Bool) → Reader Regex
  | 0, _ => throw .size
  | n + 1, first => do
    match f.extended, (← get).rest with
    | _, [] => return .nothing
    | _, '.' :: _ =>
      skip 1
      return .any
    | _, '[' :: rest =>
      let (r, rest) ← (setAt rest : Except Fault _)
      modify fun s => { s with rest := rest }
      return r
    | true, '(' :: _ =>
      skip 1
      groupAt f n
    | false, '\\' :: '(' :: _ =>
      skip 2
      groupAt f n
    | true, '^' :: _ =>
      skip 1
      return .edge .lineStart
    | true, '$' :: _ =>
      skip 1
      return .edge .lineEnd
    | false, '^' :: _ =>
      skip 1
      return if first then .edge .lineStart else .char '^'
    | false, '$' :: rest =>
      skip 1
      let s ← get
      return if atBranchEnd f { s with rest := rest } then .edge .lineEnd else .char '$'
    | true, ')' :: _ =>
      if f.lenient then
        skip 1
        return .char ')'
      else throw .closed
    | _, ['\\'] => throw .backslash
    | _, '\\' :: c :: _ =>
      skip 2
      if '1' ≤ c && c ≤ '9' then
        let k := c.toNat - '0'.toNat
        if (← get).closedGroups.contains k then return .back k else throw .reference
      else return (escaped c).getD (.char c)
    | _, c :: _ =>
      skip 1
      return .char c

end

/-- A pattern, with the number of its groups and what there is to warn of. -/
def ofText (f : Form) (text : Octets) : Except Fault (Regex × Nat × List String) := do
  let (r, s) ← (branches f (4 * text.length + 8)).run ⟨text, 0, 0, [], []⟩
  if s.rest.isEmpty then .ok (r, s.groups, s.warnings) else .error .closed

/-- A text that stands for itself. -/
def ofPlain (text : Octets) : Regex := text.foldr (fun c r => .both (.char c) r) .nothing

/-! ## Places -/

/-- How a pattern is compared: without regard to case, and line by line, so that no set of
characters takes in the end of a line. -/
structure Comparison where
  fold : Bool
  lines : Bool

/-- A place in a text: how far it is from where the match began, the character before it, and what
follows. -/
structure Place where
  position : Nat
  before : Option Char
  rest : Octets

def isWord (c : Char) : Bool := c.isAlphanum || c = '_'

def holds (o : Comparison) (e : Edge) (p : Place) : Bool :=
  let left := p.before.any isWord
  let right := p.rest.head?.any isWord
  match e with
  | .textStart => p.before.isNone
  | .textEnd => p.rest.isEmpty
  | .lineStart => p.before.isNone || o.lines && p.before = some '\n'
  | .lineEnd => p.rest.isEmpty || o.lines && p.rest.head? = some '\n'
  | .wordStart => !left && right
  | .wordEnd => left && !right
  | .wordEdge => left != right
  | .noEdge => left == right
  | .noWordBefore => !left
  | .noWordBehind => !right

/-- The place behind so many characters. -/
def Place.move (p : Place) (count : Nat) : Place :=
  ⟨p.position + count, if count = 0 then p.before else p.rest[count - 1]?, p.rest.drop count⟩

/-- How many octets a character takes. -/
def widthAt (rest : Octets) : Nat :=
  match rest with
  | [] => 0
  | a :: rest =>
    if 0xC0 ≤ a.toNat then
      1 + ((rest.take 3).takeWhile fun b => 0x80 ≤ b.toNat && b.toNat < 0xC0).length
    else 1

def sameChar (fold : Bool) (a b : Char) : Bool := a = b || fold && a.toLower = b.toLower

def inRanges (fold : Bool) (ranges : List (Char × Char)) (c : Char) : Bool :=
  let hit (c : Char) : Bool := ranges.any fun (low, high) => low ≤ c && c ≤ high
  hit c || fold && (hit c.toLower || hit c.toUpper)

/-- One character that a pattern stands for; how many octets it takes. -/
def oneAt? (o : Comparison) (r : Regex) (rest : Octets) : Option Nat :=
  match r, rest with
  | char a, b :: _ => if sameChar o.fold a b then some 1 else none
  | any, b :: _ => if o.lines && b = '\n' then none else some (widthAt rest)
  | oneOf inverted ranges, b :: _ =>
    if inRanges o.fold ranges b = inverted || inverted && o.lines && b = '\n' then none
    else some (if inverted then widthAt rest else 1)
  | _, _ => none

/-! ## Lengths -/

/-- Places without repetitions, the first ones first. -/
def distinct (places : List Place) : List Place :=
  let sorted := places.mergeSort fun a b => a.position ≤ b.position
  sorted.foldr (fun p found =>
    match found with
    | q :: _ => if p.position = q.position then found else p :: found
    | [] => [p]) []

/-- The places that can be reached; a text that is to come again is taken for any. -/
def reach (o : Comparison) : Nat → Regex → List Place → List Place
  | 0, _, _ => []
  | n + 1, r, places =>
    match r with
    | nothing => places
    | edge e => places.filter (holds o e)
    | group _ r => reach o n r places
    | back _ =>
      distinct (places.flatMap fun p => (List.range (p.rest.length + 1)).map p.move)
    | both a b => reach o n b (reach o n a places)
    | either a b => distinct (reach o n a places ++ reach o n b places)
    | many r least most => again o n r least most places places
    | r => places.filterMap fun p => (oneAt? o r p.rest).map p.move
where
  /-- The places after more turns, with those that are new in the last one. -/
  again (o : Comparison) : Nat → Regex → Nat → Option Nat → List Place → List Place → List Place
    | 0, _, _, _, found, _ => found
    | n + 1, r, least, most, found, fresh =>
      if fresh.isEmpty || most = some 0 then (if least = 0 then found else [])
      else
        let next := reach o n r fresh
        if least = 0 then
          let next := next.filter fun p => !found.any fun q => q.position = p.position
          again o n r 0 (most.map (· - 1)) (distinct (found ++ next)) next
        else again o n r (least - 1) (most.map (· - 1)) next next

/-! ## Ways -/

/-- Where a match stands, with what its groups have found: the text and whether it is known. -/
structure Cursor where
  place : Place
  groups : List (Nat × Octets)

/-- Looks for a way to match from here on that also suits what comes after. -/
def go (o : Comparison) : Nat → Regex → Cursor → (Cursor → Option Cursor) → Option Cursor
  | 0, _, _, _ => none
  | n + 1, r, c, next =>
    match r with
    | nothing => next c
    | edge e => if holds o e c.place then next c else none
    | group number r =>
      go o n r c fun d =>
        let text := c.place.rest.take (d.place.position - c.place.position)
        next { d with groups := (number, text) :: d.groups }
    | back number =>
      match c.groups.lookup number with
      | none => none
      | some text =>
        let here := c.place.rest.take text.length
        if here.length = text.length && (here.zip text).all fun (a, b) => sameChar o.fold a b then
          next { c with place := c.place.move text.length }
        else none
    | both a b => go o n a c fun d => go o n b d next
    | either a b =>
      match go o n a c next with
      | some d => some d
      | none => go o n b c next
    | many r least most =>
      let more : Option Cursor :=
        if most = some 0 then none
        else go o n r c fun d =>
          if d.place.position = c.place.position && least = 0 then none
          else go o n (many r (least - 1) (most.map (· - 1))) d next
      match more with
      | some d => some d
      | none => if least = 0 then next c else none
    | r =>
      match oneAt? o r c.place.rest with
      | some width => next { c with place := c.place.move width }
      | none => none

/-- How deep a match may go. -/
def depth : Nat := 1000000000

/-- The longest match that begins here. -/
def matchHere (r : Regex) (o : Comparison) (before : Option Char) (rest : Octets) :
    Option Cursor :=
  let start : Place := ⟨0, before, rest⟩
  let ends := (distinct (reach o depth r [start])).reverse
  ends.findSome? fun e =>
    go o depth r ⟨start, []⟩ fun d => if d.place.position = e.position then some d else none

/-- The first match from a place on: what has been passed over, the character before the match, its
text, its groups and what follows. -/
structure Found where
  passed : Octets
  before : Option Char
  text : Octets
  groups : List (Nat × Octets)
  rest : Octets

/-- The text that is passed over is kept latest first. -/
def findAfter (r : Regex) (o : Comparison) (passed : Octets) (before : Option Char) :
    Octets → Option Found
  | [] => (r.matchHere o before []).map fun c => ⟨passed.reverse, before, [], c.groups, []⟩
  | a :: rest =>
    match r.matchHere o before (a :: rest) with
    | some c =>
      some ⟨passed.reverse, before, (a :: rest).take c.place.position, c.groups, c.place.rest⟩
    | none => findAfter r o (a :: passed) (some a) rest

def find? (r : Regex) (o : Comparison) (text : Octets) : Option Found := r.findAfter o [] none text

end Regex

end Worksheet.Host
