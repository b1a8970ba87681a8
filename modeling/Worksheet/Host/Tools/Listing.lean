-- Tools that list files and describe them.
import Worksheet.Host.Tools.Description
import Worksheet.Host.Tools.Glob
import Worksheet.Host.Tools.Sorting

namespace Worksheet.Host.Tools

open Text (Octets)

/-! ## Lists -/

/-- How names are listed. -/
structure ListStyle where
  long : Bool
  commas : Bool
  quoted : Char
  marked : Bool
  markedAll : Bool
  blocks : Bool
  onlySizes : Bool
  fullTimes : Bool

/-- A name as a list shows it. -/
def listedName (s : ListStyle) (name : Octets) : Octets :=
  match s.quoted with
  | 'Q' => '"' :: (Quoting.inside (Quoting.piecesOf name)).flatMap (fun c =>
      if c = '"' then ['\\', '"'] else [c]) ++ ['"']
  | 'b' => (Quoting.inside (Quoting.piecesOf name)).flatMap fun c =>
      if c = ' ' then ['\\', ' '] else [c]
  | 's' => Quoting.bare name
  | _ => name

def listMark (s : ListStyle) (d : Description) : Octets :=
  if s.marked then Description.suffix true d.kind
  else if s.markedAll then Description.suffix false d.kind
  else if s.onlySizes && d.kind = .directory then ['/']
  else []

/-- One line of a long list. The widths are those of the numbers of links and of sizes. -/
def longLine (s : ListStyle) (now : Int) (linkWidth sizeWidth : Nat) (owners : Octets)
    (d : Description) : Octets :=
  let arrow := if d.kind = .link then word " -> " ++ listedName s d.target else []
  let mark := if d.kind = .link then [] else listMark s d
  d.modeText ++ ' ' :: Moment.filled linkWidth ' ' (Octets.ofNat d.links) ++
    owners ++ ' ' ::
    Moment.filled sizeWidth ' ' (Octets.ofNat d.size) ++ ' ' ::
    (if s.fullTimes then Description.fullTime d.modified else Description.timeText now d.modified) ++
    ' ' :: listedName s d.name ++ arrow ++ mark

def columnWidth (texts : List Octets) : Nat := (texts.map List.length).foldl max 0

/-- Names with commas between them, in lines of eighty columns. -/
def commaLines : Nat → List Octets → Octets
  | _, [] => ['\n']
  | column, [t] =>
    let broken : Bool := column ≠ 0 && 80 ≤ column + 1 + t.length
    (if broken then ['\n'] else if column = 0 then [] else [' ']) ++ t ++ ['\n']
  | column, t :: rest =>
    let broken := column ≠ 0 && 80 ≤ column + 2 + t.length
    let start : Octets := if broken then ['\n'] else if column = 0 then [] else [' ']
    let column := if broken || column = 0 then 0 else column + 1
    start ++ t ++ ',' :: commaLines (column + t.length + 1) rest

/-- The text of a list. -/
def listText (o : Options) (s : ListStyle) (now : Int) (ds : List Description) : Octets :=
  if ds.isEmpty then []
  else if s.long then
    let links := columnWidth (ds.map fun d => Octets.ofNat d.links)
    let sizes := columnWidth (ds.map fun d => Octets.ofNat d.size)
    let owner := if o.has "n" then word " 0" else word " root"
    let owners := (if o.has "g" then [] else owner) ++ (if o.has "o" || o.has "G" then [] else owner)
    unlines '\n' (ds.map (longLine s now links sizes owners))
  else
    let names := ds.map fun d =>
      (if s.blocks then Octets.ofNat d.blocks ++ [' '] else []) ++ listedName s d.name ++ listMark s d
    if s.commas then commaLines 0 names
    else unlines (if o.has "zero" then Char.ofNat 0 else '\n') names

/-! ## Order -/

def extensionOf (name : Octets) : Octets :=
  let back := name.reverse
  let last := back.takeWhile (· ≠ '.')
  if last.length = name.length then [] else '.' :: last.reverse

def inOrder (o : Options) (ds : List Description) : List Description :=
  let byName (a b : Description) : Bool := Sorting.compareOctets a.name b.name ≠ .gt
  let ds := if o.has "U" || o.has "f" then ds else ds.mergeSort byName
  let ds := match o.lastOf ["S", "t", "X", "v", "U", "f"] with
    | some "S" => ds.mergeSort fun a b => b.size ≤ a.size
    | some "t" => ds.mergeSort fun a b => b.modified ≤ a.modified
    | some "X" => ds.mergeSort fun a b =>
        Sorting.compareOctets (extensionOf a.name) (extensionOf b.name) ≠ .gt
    | some "v" => ds.mergeSort fun a b =>
        Sorting.compareVersions (a.name.length + b.name.length + 2) a.name b.name ≠ .gt
    | _ => ds
  if o.has "r" && !o.has "U" && !o.has "f" then ds.reverse else ds

/-- Directories before all others, where that is asked for. -/
def directoriesFirst (o : Options) (ds : List (Description × Bool)) : List Description :=
  if o.has "first" then (ds.filter (·.2) ++ ds.filter fun d => !d.2).map (·.1) else ds.map (·.1)

/-- The names of a directory that are listed. -/
def isListed (o : Options) (name : Octets) : Bool :=
  let all := o.has "a" || o.has "A" || o.has "f"
  let covered (key : String) : Bool :=
    (o.valuesOf key).any fun g => (Glob.ofOctets g).covers name
  (all || name.head? ≠ some '.') && !covered "I" && (all || !covered "hide") &&
    !(o.has "B" && name.getLast? = some '~')

/-! ## Listing -/

/-- Describes names in a directory, or where they stand. -/
def describeNames (o : Options) (directory : Option Octets) (names : List Octets) :
    Task (List Description) := do
  let found ← names.filterMapM fun name => do
    let path := match directory with
      | some d => under d name
      | none => name
    let there ← isDirectory path
    match ← Description.of (o.has "L") path with
    | .ok d => return some ({ d with name := name }, there)
    | .error _ =>
      match ← Description.of false path with
      | .ok d => return some ({ d with name := name }, there)
      | .error _ => return none
  let sorted := inOrder o (found.map (·.1))
  return directoriesFirst o (sorted.map fun d =>
    (d, ((found.find? fun f => f.1.name = d.name).map (·.2)).getD false))

def listStyle (o : Options) : ListStyle :=
  let shape := o.lastOf ["l", "g", "o", "n", "m", "1", "C", "x"]
  let long := ["l", "g", "o", "n", "ft"].any o.has && shape ≠ some "m" && shape ≠ some "C" &&
    shape ≠ some "x"
  let quoted := match o.lastOf ["Q", "b", "N", "quoting-style"] with
    | some "Q" => 'Q'
    | some "b" => 'b'
    | some "quoting-style" =>
      match ((o.value? "quoting-style").getD []).spelled with
      | "c" => 'Q'
      | "escape" => 'b'
      | "shell" => 's'
      | "shell-escape" => 's'
      | _ => 'N'
    | _ => 'N'
  ⟨long, shape = some "m", quoted, o.lastOf ["F", "p", "file-type"] = some "F",
    o.lastOf ["F", "p", "file-type"] = some "file-type", o.has "s",
    o.lastOf ["F", "p", "file-type"] = some "p",
    o.has "ft" || (o.value? "style").any (· = word "full-iso")⟩

/-- The listing of directories, each under its name when there is more than one thing to list. -/
def listDirectories (i : Invocation) (o : Options) (now : Int) (titled : Bool) :
    Nat → (first : Bool) → List Octets → Task Bool
  | 0, _, _ => pure true
  | _ + 1, _, [] => pure true
  | n + 1, first, d :: rest => do
    match ← Task.call (.list d) with
    | .error e =>
      complain i ("cannot open directory " ++ inPlainQuotes d ++ ": " ++ e.text)
      let _ ← listDirectories i o now titled n first rest
      return false
    | .ok names =>
      let dots := if o.has "a" || o.has "f" then [word ".", word ".."] else []
      let ds ← describeNames o (some d) (dots ++ names.filter (isListed o))
      let s := listStyle o
      let title := if titled then (if first then [] else ['\n']) ++ Quoting.bare d ++ word ":\n" else []
      let total := if s.long || s.blocks then
          word "total " ++ Octets.ofNat (total (ds.map Description.blocks)) ++ ['\n']
        else []
      put i 2 (title ++ total ++ listText o s now ds)
      let below := if o.has "R" then
          (ds.filter fun c => c.kind = .directory && c.name ≠ word "." && c.name ≠ word "..").map
            fun c => under d c.name
        else []
      listDirectories i o now titled n false (below ++ rest)

/-- Operands of the listing: files, directories, and whether all could be found. A link to a
directory is listed as one where nothing of the link itself is asked for. -/
def divide (i : Invocation) (o : Options) : List Octets → Task (List Octets × List Octets × Bool)
  | [] => pure ([], [], true)
  | name :: rest => do
    let ownKind ← Task.call (.inspect name)
    let farKind ← Task.call (.examine name)
    let s := listStyle o
    let follows := o.has "L" || o.has "H" || !(s.long || o.has "d" || s.marked)
    let kind : Except Errno FileKind := match ownKind, farKind with
      | .ok .link, .ok .directory => if follows then .ok .directory else ownKind
      | .ok .link, .error e => if o.has "L" then .error e else ownKind
      | own, _ => own
    match kind with
    | .error e =>
      complain i ("cannot access " ++ inPlainQuotes name ++ ": " ++ e.text)
      let (files, directories, _) ← divide i o rest
      return (files, directories, false)
    | .ok kind =>
      let (files, directories, good) ← divide i o rest
      if kind = .directory && !o.has "d" then return (files, name :: directories, good)
      else return (name :: files, directories, good)

def listWords : List (String × String) :=
  [("all", "a"), ("almost-all", "A"), ("author", "author"), ("escape", "b"), ("block-size=", "bs"),
    ("ignore-backups", "B"), ("color?", "color"), ("directory", "d"), ("dired", "dired"),
    ("classify?", "F"), ("file-type", "file-type"), ("format=", "format"), ("full-time", "ft"),
    ("group-directories-first", "first"), ("no-group", "G"), ("human-readable", "h"), ("si", "si"),
    ("dereference-command-line", "H"), ("hide=", "hide"), ("hyperlink?", "hyper"), ("inode", "i"),
    ("ignore=", "I"), ("kibibytes", "k"), ("dereference", "L"), ("numeric-uid-gid", "n"),
    ("literal", "N"), ("hide-control-chars", "q"), ("show-control-chars", "show"),
    ("quote-name", "Q"), ("quoting-style=", "quoting-style"), ("reverse", "r"), ("recursive", "R"),
    ("size", "s"), ("sort=", "sort"), ("time=", "time"), ("time-style=", "style"),
    ("tabsize=", "T"), ("width=", "w"), ("context", "context"), ("zero", "zero")]

/-- Lists directories and files, one name a line. -/
def ls : Tool := fun i => do
  let o ← options { grammar "abcdfghiklmnopqrstuvw:xABCDFGHI:LNQRST:UXZ1" listWords with code := 2 } i
  let operands := if o.operands.isEmpty then [['.']] else o.operands
  let (files, directories, good) ← divide i o operands
  let files ← describeNames o none files
  let now : Int ← Task.call .clock
  put i 2 (listText o (listStyle o) now files)
  let directories := (← describeNames o none directories).map (·.name)
  let titled := 1 < o.operands.length || o.has "R"
  let read ← listDirectories i o now titled treeDepth files.isEmpty directories
  return if good && read then 0 else 2

/-! ## Descriptions -/

def kindText (d : Description) : String :=
  match d.kind with
  | .regular _ 0 => "regular empty file"
  | kind => kindName kind

/-- What a letter of a format stands for; nothing if there is no such letter. -/
def statField (d : Description) (letter : Char) : Option Octets :=
  let seconds := d.modified / 1000000000
  match letter with
  | 'n' => some d.name
  | 'N' => some (Quoting.quoted d.name ++
      (if d.kind = .link then word " -> " ++ Quoting.quoted d.target else []))
  | 's' => some (Octets.ofNat d.size)
  | 'F' => some (word (kindText d))
  | 'a' => some (Modes.octal 1 d.mode)
  | 'A' => some d.modeText
  | 'U' => some (word "root")
  | 'G' => some (word "root")
  | 'u' => some ['0']
  | 'g' => some ['0']
  | 'h' => some (Octets.ofNat d.links)
  | 'b' => some (Octets.ofNat (2 * d.blocks))
  | 'B' => some (word "512")
  | 'o' => some (word "4096")
  | 'X' => some (Octets.ofInt seconds)
  | 'Y' => some (Octets.ofInt seconds)
  | 'Z' => some (Octets.ofInt seconds)
  | 'W' => some (Octets.ofInt seconds)
  | 'x' => some (Description.fullTime d.modified)
  | 'y' => some (Description.fullTime d.modified)
  | 'z' => some (Description.fullTime d.modified)
  | 'w' => some (Description.fullTime d.modified)
  | 'm' => some ['/']
  | 't' => some ['0']
  | 'T' => some ['0']
  | _ => none

/-- A description in a format. -/
def describe (d : Description) (escapes : Bool) : Nat → Octets → Octets
  | 0, _ => []
  | _ + 1, [] => []
  | n + 1, '%' :: rest =>
    let flags := rest.takeWhile fun c => "#-+ 0'".toList.contains c
    let body := rest.drop flags.length
    let width := body.takeWhile Char.isDigit
    match body.drop width.length with
    | [] => '%' :: describe d escapes n rest
    | letter :: more =>
      if letter = '%' then '%' :: describe d escapes n more
      else
        let text := (statField d letter).getD ['?']
        let size := (digits? width).getD 0
        let padded := if flags.contains '-' then text ++ List.replicate (size - text.length) ' '
          else Moment.filled size (if flags.contains '0' then '0' else ' ') text
        padded ++ describe d escapes n more
  | n + 1, '\\' :: rest =>
    if escapes then
      let (c, rest) := Printing.escape rest
      c :: describe d escapes n rest
    else '\\' :: describe d escapes n rest
  | n + 1, c :: rest => c :: describe d escapes n rest

/-- Describes files in a format. -/
def stat : Tool := fun i => do
  let o ← options (grammar "c:fLt" [("dereference", "L"), ("file-system", "f"), ("format=", "c"),
    ("printf=", "p"), ("terse", "t"), ("cached=", "cached")]) i
  needOperands i o 1
  let format : Octets := match o.lastOf ["c", "p"] with
    | some key => (o.value? key).getD []
    | none => word "  File: %N\n  Size: %-10s\tBlocks: %-10b IO Block: %-6o %F\nAccess: (0%a/%A)\nModify: %y"
  let escapes := o.has "p"
  return codeOf (← forEach (fun name => do
    match ← Description.of (o.has "L") name with
    | .error e =>
      complain i ("cannot statx " ++ inPlainQuotes name ++ ": " ++ e.text)
      return false
    | .ok d =>
      put i 1 (describe d escapes (format.length + 1) format ++ (if escapes then [] else ['\n']))
      return true) o.operands)

end Worksheet.Host.Tools
