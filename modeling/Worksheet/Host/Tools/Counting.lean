-- Tools that count: lines, words and characters of texts, and numbers in front of lines.
import Worksheet.Host.Tools.Regex
import Worksheet.Host.Tools.Streams

namespace Worksheet.Host.Tools

open Text (Octets)

/-! ## Sizes of texts -/

def isSpace (c : Char) : Bool := c = ' ' || (9 ≤ c.toNat && c.toNat ≤ 13)

def countWords (text : Octets) : Nat :=
  (text.foldl (fun (n, inside) c =>
    if isSpace c then (n, false)
    else (if inside then n else n + 1, true)) ((0, false) : Nat × Bool)).1

/-- An octet that begins a character. -/
def beginsChar (c : Char) : Bool := c.toNat < 0x80 || 0xC0 ≤ c.toNat

/-- The width of the widest line. -/
def widest (text : Octets) : Nat :=
  (text.foldl (fun (most, here) c =>
    if c = '\n' || c = '\x0d' || c = '\x0c' then (most, 0)
    else
      let here := if c = '\t' then here / 8 * 8 + 8
        else if beginsChar c && 0x20 ≤ c.toNat && c.toNat ≠ 0x7f then here + 1
        else here
      (max most here, here)) ((0, 0) : Nat × Nat)).1

/-- Lines, words, characters, bytes and the widest line, as asked for. -/
def countsOf (o : Options) (text : Octets) : List Nat :=
  let all := !(o.has "l" || o.has "w" || o.has "c" || o.has "m" || o.has "L")
  (if all || o.has "l" then [text.count '\n'] else []) ++
  (if all || o.has "w" then [countWords text] else []) ++
  (if o.has "m" then [(text.filter beginsChar).length] else []) ++
  (if all || o.has "c" then [text.length] else []) ++
  (if o.has "L" then [widest text] else [])

def countLine (width : Nat) (counts : List Nat) (name : Option Octets) : Octets :=
  let cells := counts.map fun n =>
    let ds := Octets.ofNat n
    List.replicate (width - ds.length) ' ' ++ ds
  [' '].intercalate cells ++ (match name with
    | some name => ' ' :: Octets.ofString (bare name)
    | none => []) ++ ['\n']

/-- The size of an input that is a file. -/
def sizeOf? (name : Octets) : Task (Option Nat) := do
  let path ← if name = ['-'] then Task.call (.fileOf 0) else pure (some name)
  match path with
  | none => return none
  | some path =>
    match ← Task.call (.examine path) with
    | .ok (.regular _ size) => return some size
    | .ok _ => return none
    | .error _ => return some 0

/-- Counts lines, words and bytes. -/
def wc : Tool := fun i => do
  let o ← options (grammar "clLmw" [("bytes", "c"), ("chars", "m"), ("lines", "l"), ("words", "w"),
    ("max-line-length", "L"), ("total=", "total"), ("files0-from=", "from")]) i
  let names := inputNames o.operands
  let columns := (countsOf o []).length
  let sizes ← names.mapM sizeOf?
  let width :=
    if names.length = 1 && columns = 1 then 1
    else
      let digits := (toString (total (sizes.filterMap id))).length
      if sizes.any (·.isNone) then max 7 digits else digits
  let results ← names.mapM fun name => do
    let shown := if o.operands.isEmpty then none else some name
    match ← readInput name with
    | .ok text =>
      let counts := countsOf o text
      put i 1 (countLine width counts shown)
      return (counts, true)
    | .error .isDirectory =>
      complainOf i name .isDirectory
      put i 1 (countLine width (List.replicate columns 0) shown)
      return ([], false)
    | .error e =>
      complainOf i name e
      return ([], false)
  if 1 < names.length then
    put i 1 (countLine width ((List.range columns).map fun k =>
      total (results.map fun r => r.1.getD k 0)) (some (word "total")))
  return codeOf (results.all (·.2))

/-! ## Numbers in front of lines -/

/-- Which lines are numbered. -/
inductive Numbered
  | all
  | filled
  | none
  | matching (r : Regex)

/-- How lines are numbered: which ones, from where and in which steps, how many empty lines count as
one, and how a number looks. -/
structure Numbering where
  which : Numbered
  start : Int
  step : Int
  width : Nat
  separator : Octets
  form : Octets
  blanks : Nat

def numberText (n : Numbering) (k : Int) : Octets :=
  let ds := Octets.ofNat k.natAbs
  let sign : Octets := if k < 0 then ['-'] else []
  let size := sign.length + ds.length
  if n.form = word "ln" then sign ++ ds ++ List.replicate (n.width - size) ' '
  else if n.form = word "rz" then sign ++ List.replicate (n.width - size) '0' ++ ds
  else List.replicate (n.width - size) ' ' ++ sign ++ ds

/-- Lines with their numbers; a line without one is moved to the right. -/
def numberLines (n : Numbering) : Int → (empty : Nat) → List Octets → List Octets
  | _, _, [] => []
  | k, empty, line :: rest =>
    let empty := if line.isEmpty then empty + 1 else 0
    let counts := match n.which with
      | .all => !line.isEmpty || empty % n.blanks = 0
      | .filled => !line.isEmpty
      | .none => false
      | .matching r => (r.find? ⟨false, false⟩ line).isSome
    if counts then
      (numberText n k ++ n.separator ++ line) :: numberLines n (k + n.step) empty rest
    else
      (List.replicate (n.width + n.separator.length) ' ' ++ line) :: numberLines n k empty rest

/-- Numbers lines. -/
def nl : Tool := fun i => do
  let o ← options (grammar "b:h:f:d:i:l:n:ps:v:w:" [("body-numbering=", "b"),
    ("header-numbering=", "h"), ("footer-numbering=", "f"), ("section-delimiter=", "d"),
    ("line-increment=", "i"), ("join-blank-lines=", "l"), ("number-format=", "n"),
    ("no-renumber", "p"), ("number-separator=", "s"), ("starting-line-number=", "v"),
    ("number-width=", "w")]) i
  let which ← match o.value? "b" with
    | none => pure Numbered.filled
    | some ['t'] => pure .filled
    | some ['a'] => pure .all
    | some ['n'] => pure .none
    | some ('p' :: pattern) =>
      match Regex.ofText ⟨false, false⟩ pattern with
      | .ok (r, _) => pure (.matching r)
      | .error f => fail i 1 f.message
    | some style => misuse i 1 ("invalid body numbering style: " ++ inQuotes style)
  let whole (key what : String) (usual : Int) : Task Int := do
    match o.value? key with
    | none => return usual
    | some text =>
      let (negative, ds) := match text with
        | '-' :: ds => (true, ds)
        | ds => (false, ds)
      match digits? ds with
      | some n => return if negative then -(n : Int) else n
      | none => fail i 1 ("invalid " ++ what ++ ": " ++ inQuotes text)
  let step ← whole "i" "line number increment" 1
  let start ← whole "v" "starting line number" 1
  let width ← whole "w" "line number field width" 6
  let blanks ← whole "l" "line number of blank lines" 1
  let form := (o.value? "n").getD (word "rn")
  if !([word "ln", word "rn", word "rz"].contains form) then
    misuse i 1 ("invalid line numbering format: " ++ inQuotes form)
  let n : Numbering := ⟨which, start, step, width.toNat, (o.value? "s").getD ['\t'], form,
    max blanks.toNat 1⟩
  let (found, good) ← readInputs i (inputNames o.operands)
  put i 1 (unlines '\n' (numberLines n start 0 (found.flatMap fun f => plainLines '\n' f.2)))
  return codeOf good

end Worksheet.Host.Tools
