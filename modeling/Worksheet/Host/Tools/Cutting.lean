-- Tools that cut lines and put them together.
import Worksheet.Host.Tools.Streams
import Worksheet.Text.Split

namespace Worksheet.Host.Tools

open Text (Octets)

namespace Cutting

/-! ## Lists of positions -/

/-- A part of a list: from a position to another one or to the end. -/
abbrev Span := Nat × Option Nat

/-- How messages speak of what is listed. -/
structure Wording where
  kind : String
  plural : String

def fieldWording : Wording := ⟨"field", "fields"⟩

def byteWording : Wording := ⟨"byte/character", "byte/character positions"⟩

/-- A part of a list, or what is wrong with it. -/
def span (w : Wording) (text : Octets) : Except String Span :=
  let wrong : Except String Span :=
    .error ("invalid " ++ w.kind ++
      (if w.kind = "field" then " value " else " position ") ++ inQuotes text)
  let zero : Except String Span :=
    .error (w.plural ++ " are numbered from 1")
  let low := text.takeWhile Char.isDigit
  match digits? low, text.drop low.length with
  | some 0, _ => zero
  | some n, [] => .ok (n, some n)
  | none, [] => zero
  | a, '-' :: high =>
    match a, digits? high, high.isEmpty with
    | none, none, true => .error "invalid range with no endpoint: -"
    | a, none, true => .ok (a.getD 1, none)
    | a, some h, _ =>
      if h = 0 && a.isNone then zero
      else if h < a.getD 1 then .error "invalid decreasing range"
      else .ok (a.getD 1, some h)
    | _, none, false => wrong
  | _, _ => wrong

def separated (text : Octets) : List Octets :=
  (Text.split ',' (text.map fun c => if c = ' ' || c = '\t' then ',' else c))

def spans (w : Wording) (text : Octets) : Except String (List Span) :=
  (separated text).mapM (span w)

def isIn (rs : List Span) (n : Nat) : Bool :=
  rs.any fun (low, high) => low ≤ n && (match high with
    | some h => n ≤ h
    | none => true)

/-- The chosen items of a line, those that stand together as one run. -/
def runsOf {α : Type} (chosen : Nat → Bool) : Nat → Option (List α) → List α → List (List α)
  | _, run, [] => run.toList.map List.reverse
  | n, run, a :: rest =>
    if chosen n then runsOf chosen (n + 1) (some (a :: run.getD [])) rest
    else run.toList.map List.reverse ++ runsOf chosen (n + 1) none rest

end Cutting

open Cutting

/-- Takes parts out of each line. -/
def cut : Tool := fun i => do
  let o ← options (grammar "b:c:d:f:nsz" [("bytes=", "b"), ("characters=", "c"), ("fields=", "f"),
    ("delimiter=", "d"), ("only-delimited", "s"), ("output-delimiter=", "out"),
    ("complement", "not"), ("zero-terminated", "z")]) i
  let lists := ["b", "c", "f"].flatMap fun k => (o.valuesOf k).map (k, ·)
  if 1 < lists.length then misuse i 1 "only one list may be specified"
  let some (kind, list) := lists.head?
    | misuse i 1 "you must specify a list of bytes, characters, or fields"
  let byFields := kind = "f"
  match o.value? "d" with
  | some (_ :: _ :: _) => misuse i 1 "the delimiter must be a single character"
  | some _ =>
    if !byFields then
      misuse i 1 "an input delimiter may be specified only when operating on fields"
  | none => pure ()
  if o.has "s" && !byFields then
    misuse i 1 ("suppressing non-delimited lines makes sense\n\tonly when operating on fields")
  let rs ← match spans (if byFields then fieldWording else byteWording) list with
    | .ok rs => pure rs
    | .error message => misuse i 1 message
  let mark := lineMark o
  let separator := ((o.value? "d").getD ['\t']).headD (Char.ofNat 0)
  let between := o.value? "out"
  let chosen (n : Nat) : Bool := isIn rs n != o.has "not"
  let change (line : Octets) : Option Octets :=
    if byFields then
      if line.contains separator then
        some ((between.getD [separator]).intercalate
          (((Text.split separator line).zipIdx.filter fun x => chosen (x.2 + 1)).map (·.1)))
      else if o.has "s" then none else some line
    else match between with
      | some b => some (b.intercalate (runsOf chosen 1 none line))
      | none => some ((line.zipIdx.filter fun x => chosen (x.2 + 1)).map (·.1))
  let (found, good) ← readInputs i (inputNames o.operands)
  put i 1 (unlines mark (found.flatMap fun f => (plainLines mark f.2).filterMap change))
  return codeOf good

/-! ## Side by side -/

/-- Delimiters as they are written; an escaped zero is none at all. -/
def delimiters : Octets → List Octets
  | '\\' :: c :: rest =>
    (match c with
    | 'n' => ['\n']
    | 't' => ['\t']
    | 'b' => ['\x08']
    | 'f' => ['\x0c']
    | 'r' => ['\x0d']
    | 'v' => ['\x0b']
    | '0' => []
    | c => [c]) :: delimiters rest
  | c :: rest => [c] :: delimiters rest
  | [] => []

/-- Cells with delimiters in turn between them. -/
def withDelimiters (ds : List Octets) : Nat → List Octets → Octets
  | _, [] => []
  | _, [a] => a
  | n, a :: rest => a ++ ds.getD (n % ds.length) [] ++ withDelimiters ds (n + 1) rest

/-- Lines of several texts side by side. -/
def sideBySide (ds : List Octets) : Nat → List (List Octets) → List Octets
  | 0, _ => []
  | n + 1, columns =>
    if columns.all List.isEmpty then []
    else withDelimiters ds 0 (columns.map fun c => c.headD []) ::
      sideBySide ds n (columns.map fun c => c.drop 1)

/-- Deals the lines of one text out to columns that share it. -/
def dealt (count index : Nat) (lines : List Octets) : List Octets :=
  (lines.zipIdx.filter fun l => l.2 % count = index).map (·.1)

/-- Puts lines side by side, or all lines of a text into one. -/
def paste : Tool := fun i => do
  let o ← options (grammar "d:sz" [("delimiters=", "d"), ("serial", "s"),
    ("zero-terminated", "z")]) i
  let mark := lineMark o
  let ds := match o.value? "d" with
    | some [] => [[]]
    | some text => delimiters text
    | none => [['\t']]
  let names := inputNames o.operands
  let input ← if names.contains ['-'] then
      match ← readDescriptor 0 with
      | .ok text => pure (plainLines mark text)
      | .error e => fail i 1 ("-: " ++ e.text)
    else pure []
  let stdins := (names.filter (· = ['-'])).length
  let columns ← (names.zipIdx).mapM fun (name, k) => do
    if name = ['-'] then
      let index := ((names.take k).filter (· = ['-'])).length
      return (if o.has "s" then (if index = 0 then input else []) else dealt stdins index input)
    else match ← readInput name with
      | .ok text => return plainLines mark text
      | .error e => fail i 1 (bare name ++ ": " ++ e.text)
  let lines := if o.has "s" then columns.map (withDelimiters ds 0)
    else sideBySide ds ((columns.map List.length).foldl max 0 + 1) columns
  put i 1 (unlines mark lines)
  return 0

/-! ## Within a line -/

/-- Characters of a line, each with its octets. -/
def characters : Nat → Octets → List Octets
  | 0, _ => []
  | _ + 1, [] => []
  | n + 1, text =>
    let width := (Quoting.characterAt text).1
    text.take (max width 1) :: characters n (text.drop (max width 1))

def backwards (line : Octets) : Octets := (characters line.length line).reverse.flatten

/-- Each line from its end to its start. -/
def rev : Tool := fun i => do
  let o ← options (grammar "0" [("zero", "0")]) i
  let mark := if o.has "0" then Char.ofNat 0 else '\n'
  let good ← forEach (fun name => do
    match ← readInput name with
    | .error e =>
      complain i ("cannot open " ++ name.spelled ++ ": " ++ e.text)
      return false
    | .ok text =>
      put i 1 ((linesAfter mark [] [] text).flatMap fun line =>
        backwards (chomp mark line) ++ (if line.getLast? = some mark then [mark] else []))
      return true) (inputNames o.operands)
  return codeOf good

/-- The column behind a character. -/
def columnAfter (bytes : Bool) (column : Nat) (c : Char) : Nat :=
  if bytes then column + 1
  else if c = '\x08' then column - 1
  else if c = '\x0d' then 0
  else if c = '\t' then column / 8 * 8 + 8
  else column + 1

/-- Where the last blank of a line stands: what goes up to it, and what follows. -/
def splitAtBlank (line : Octets) : Option (Octets × Octets) :=
  let tail := line.takeWhile fun c => c ≠ ' ' && c ≠ '\t'
  if tail.length = line.length then none
  else some (line.drop tail.length, tail)

/-- Breaks lines that are too wide; what stands in the line so far is kept latest first. -/
def foldText (bytes spaces : Bool) (width : Nat) :
    Nat → (line : Octets) → (column : Nat) → Octets → Octets
  | 0, line, _, _ => line.reverse
  | _ + 1, line, _, [] => line.reverse
  | n + 1, line, _, '\n' :: rest => ('\n' :: line).reverse ++ foldText bytes spaces width n [] 0 rest
  | n + 1, line, column, c :: rest =>
    let next := columnAfter bytes column c
    if width < next && !line.isEmpty then
      match if spaces then splitAtBlank line else none with
      | some (before, after) =>
        before.reverse ++ '\n' ::
          foldText bytes spaces width n after
            (after.reverse.foldl (columnAfter bytes) 0) (c :: rest)
      | none => line.reverse ++ '\n' :: foldText bytes spaces width n [] 0 (c :: rest)
    else foldText bytes spaces width n (c :: line) next rest

/-- A width may be written behind a dash alone. -/
def dashWidth (words : List Octets) : List Octets :=
  words.flatMap fun w =>
    match w with
    | '-' :: c :: rest =>
      if c.isDigit && rest.all Char.isDigit then [word "-w", c :: rest] else [w]
    | w => [w]

/-- Breaks lines that are too wide. -/
def fold : Tool := fun i => do
  let o ← options (grammar "bsw:" [("bytes", "b"), ("spaces", "s"), ("width=", "w")])
    { i with words := dashWidth i.words }
  let text := (o.value? "w").getD (word "80")
  let some width := digits? text
    | fail i 1 ("invalid number of columns: " ++ inQuotes text)
  if width = 0 then fail i 1 ("invalid number of columns: " ++ inQuotes text)
  let good ← forEach (fun name => do
    match ← readInput name with
    | .error e =>
      complainOf i name e
      return false
    | .ok text =>
      put i 1 (foldText (o.has "b") (o.has "s") width (3 * text.length + 3) [] 0 text)
      return true) (inputNames o.operands)
  return codeOf good

/-- Tabs as blanks, after what has been written (latest first). -/
def expandTabs (width : Nat) (onlyFirst : Bool) :
    Octets → (column : Nat) → (leading : Bool) → Octets → Octets
  | done, _, _, [] => done.reverse
  | done, column, leading, c :: rest =>
    if c = '\n' then expandTabs width onlyFirst (c :: done) 0 true rest
    else if c = '\t' && (leading || !onlyFirst) then
      let fill := width - column % width
      expandTabs width onlyFirst (List.replicate fill ' ' ++ done) (column + fill) leading rest
    else if c = '\x08' then expandTabs width onlyFirst (c :: done) (column - 1) leading rest
    else expandTabs width onlyFirst (c :: done) (column + 1) (leading && c = ' ') rest

/-- Writes tabs as blanks. -/
def expand : Tool := fun i => do
  let o ← options (grammar "it:" [("initial", "i"), ("tabs=", "t")]) i
  let text := (o.value? "t").getD ['8']
  let some width := digits? text
    | fail i 1 ("tab size contains invalid character(s): " ++ inQuotes text)
  if width = 0 then fail i 1 "tab size cannot be 0"
  let (found, good) ← readInputs i (inputNames o.operands)
  put i 1 (expandTabs width (o.has "i") [] 0 true (found.flatMap (·.2)))
  return codeOf good

end Worksheet.Host.Tools
