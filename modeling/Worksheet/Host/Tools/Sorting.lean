-- Tools for ordered lines: putting them in order, and comparing neighbours and ordered texts.
import Worksheet.Host.Tools.Input
import Worksheet.Number.Floating

namespace Worksheet.Host.Tools

open Text (Octets)

namespace Sorting

def isBlank (c : Char) : Bool := c = ' ' || c = '\t' || c = '\n'

/-! ## Orders of texts -/

def compareOctets : Octets → Octets → Ordering
  | [], [] => .eq
  | [], _ => .lt
  | _, [] => .gt
  | a :: as, b :: bs => if a < b then .lt else if b < a then .gt else compareOctets as bs

/-- The number at the front of a text as a fraction of a power of ten. A text without one counts as
zero. -/
def leadingNumber (text : Octets) : Int × Nat :=
  let body := text.dropWhile isBlank
  let (negative, body) := match body with
    | '-' :: r => (true, r)
    | r => (false, r)
  let whole := body.takeWhile Char.isDigit
  let part := match body.drop whole.length with
    | '.' :: r => r.takeWhile Char.isDigit
    | _ => []
  let n : Int := (digits? (whole ++ part)).getD 0
  (if negative then -n else n, part.length)

def compareFractions (a b : Int × Nat) : Ordering :=
  compare (a.1 * Nat.pow 10 b.2) (b.1 * Nat.pow 10 a.2)

/-- The rank of the unit behind a number: below zero for a negative number. -/
def unitRank (text : Octets) : Int :=
  let body := text.dropWhile isBlank
  let (negative, body) := match body with
    | '-' :: r => (true, r)
    | r => (false, r)
  let whole := body.takeWhile Char.isDigit
  let rest := match body.drop whole.length with
    | '.' :: r => r.dropWhile Char.isDigit
    | r => r
  let isZero := (whole.all (· = '0')) && (leadingNumber text).1 = 0
  let rank : Nat := match rest with
    | c :: _ => if c = 'k' then 1 else ("KMGTPEZYRQ".toList.findIdx? (· = c)).elim 0 (· + 1)
    | [] => 0
  if isZero then 0 else if negative then -(rank : Int) else rank

def months : List String :=
  ["JAN", "FEB", "MAR", "APR", "MAY", "JUN", "JUL", "AUG", "SEP", "OCT", "NOV", "DEC"]

def monthRank (text : Octets) : Nat :=
  let name := ((text.dropWhile isBlank).take 3).map Char.toUpper
  (months.findIdx? fun m => m.toList = name).elim 0 (· + 1)

/-- A number of any kind; words come before what is no number, and that before all numbers. -/
def generalRank (text : Octets) : Nat × Int × Nat :=
  let r := Floating.read .extended text
  if r.rest.length = text.length then (0, 0, 1)
  else match r.value with
    | .nan _ => (1, 0, 1)
    | .infinite true => (2, 0, 1)
    | .infinite false => (4, 0, 1)
    | .finite negative m e =>
      let (num, den) := Floating.fraction m e
      (3, if negative then -(num : Int) else num, den)

def compareGeneral (a b : Octets) : Ordering :=
  let (ka, na, da) := generalRank a
  let (kb, nb, db) := generalRank b
  (compare ka kb).then (compare (na * db) (nb * da))

/-- The rank of a character between the numbers of versions: a tilde comes before the end, letters
before all other signs. -/
def versionRank : Option Char → Nat
  | some '~' => 0
  | none => 1
  | some c => if c.isAlpha then 2 + c.toNat else 300 + c.toNat

/-- Compares versions: texts without digits and numbers in turn. -/
def compareVersions : Nat → Octets → Octets → Ordering
  | 0, _, _ => .eq
  | n + 1, a, b =>
    match a, b with
    | [], [] => .eq
    | a, b =>
      let headOf (t : Octets) : Option Char := t.head?.filter fun c => !c.isDigit
      match headOf a, headOf b with
      | none, none =>
        let da := a.takeWhile Char.isDigit
        let db := b.takeWhile Char.isDigit
        match compare ((digits? da).getD 0) ((digits? db).getD 0) with
        | .eq =>
          if da.isEmpty && db.isEmpty then compare a.length b.length
          else compareVersions n (a.drop da.length) (b.drop db.length)
        | o => o
      | x, y =>
        match compare (versionRank x) (versionRank y) with
        | .eq => compareVersions n (a.drop 1) (b.drop 1)
        | o => o

/-! ## Keys -/

/-- What a key looks at and how: letters for its order, the fields and characters at which it begins
and ends, and whether blanks are skipped there. -/
structure Key where
  letters : List Char
  field : Nat
  char : Nat
  lastField : Option Nat
  lastChar : Nat
  skipsBefore : Bool
  skipsAfter : Bool

/-- Skips so many fields. -/
def skipFields (separator : Option Char) : Nat → Octets → Octets
  | 0, text => text
  | n + 1, text =>
    match separator with
    | some c => skipFields separator n ((text.dropWhile (· ≠ c)).drop 1)
    | none => skipFields separator n ((text.dropWhile isBlank).dropWhile fun c => !isBlank c)

/-- The length of a text up to the end of a field, or up to a character in it. -/
def endOf (separator : Option Char) (field char : Nat) (skips : Bool) (text : Octets) : Nat :=
  let rest := if char = 0 then
      match separator with
      | some c => (skipFields separator field text).dropWhile (· ≠ c)
      | none => skipFields separator (field + 1) text
    else
      let start := skipFields separator field text
      let start := if skips then start.dropWhile isBlank else start
      start.drop char
  text.length - rest.length

def Key.textOf (k : Key) (separator : Option Char) (line : Octets) : Octets :=
  let start := skipFields separator k.field line
  let start := if k.skipsBefore then start.dropWhile isBlank else start
  let start := start.drop k.char
  match k.lastField with
  | none => start
  | some f =>
    let stop := endOf separator f k.lastChar k.skipsAfter line
    start.take (stop - (line.length - start.length))

/-- What of a text counts in its order. -/
def Key.plain (k : Key) (text : Octets) : Octets :=
  let text := if k.letters.contains 'd' then text.filter fun c => c.isAlphanum || isBlank c
    else if k.letters.contains 'i' then text.filter fun c => 0x20 ≤ c.toNat && c.toNat < 0x7f
    else text
  if k.letters.contains 'f' then text.map Char.toUpper else text

def Key.compare (k : Key) (separator : Option Char) (a b : Octets) : Ordering :=
  let a := k.textOf separator a
  let b := k.textOf separator b
  let has (c : Char) : Bool := k.letters.contains c
  let order :=
    if has 'n' then compareFractions (leadingNumber a) (leadingNumber b)
    else if has 'h' then
      (Ord.compare (unitRank a) (unitRank b)).then
        (compareFractions (leadingNumber a) (leadingNumber b))
    else if has 'g' then compareGeneral a b
    else if has 'M' then Ord.compare (monthRank a) (monthRank b)
    else if has 'V' then compareVersions (a.length + b.length + 2) (k.plain a) (k.plain b)
    else compareOctets (k.plain a) (k.plain b)
  if has 'r' then order.swap else order

/-! ## Reading keys -/

def orderLetters : List Char := "bdfghiMnRrV".toList

/-- A position: a field, a character, and letters; what is wrong with it otherwise. -/
def position (atStart : Bool) (text : Octets) :
    Except String (Nat × Option Nat × List Char × Octets) :=
  let ds := text.takeWhile Char.isDigit
  let place := if atStart then "start" else "after ','"
  match digits? ds with
  | none =>
    .error (if atStart then
      "invalid number at field start: invalid count at start of " ++ inQuotes text
      else "invalid number after ',': invalid count at start of " ++ inQuotes text)
  | some field =>
    let rest := text.drop ds.length
    let finish (char : Option Nat) (rest : Octets) :
        Except String (Nat × Option Nat × List Char × Octets) :=
      let letters := rest.takeWhile orderLetters.contains
      .ok (field, char, letters, rest.drop letters.length)
    match rest with
    | '.' :: rest =>
      let cs := rest.takeWhile Char.isDigit
      match digits? cs with
      | none => .error ("invalid number after '.': invalid count at start of " ++ inQuotes rest)
      | some char => finish (some char) (rest.drop cs.length)
    | rest => if place.isEmpty then .ok (field, none, [], rest) else finish none rest

def keyOf (text : Octets) : Except String Key := do
  let wrong {α : Type} (what : String) : Except String α :=
    .error (what ++ ": invalid field specification " ++ inQuotes text)
  let (field, char, letters, rest) ← position true text
  if field = 0 then wrong "field number is zero"
  if char = some 0 then wrong "character offset is zero"
  let start : Key := ⟨letters.filter (· ≠ 'b'), field - 1, (char.getD 1) - 1, none, 0,
    letters.contains 'b', false⟩
  match rest with
  | [] => return start
  | ',' :: rest =>
    let (field, char, more, rest) ← position false rest
    if field = 0 then wrong "field number is zero"
    if !rest.isEmpty then wrong "stray character in field spec"
    return { start with
      letters := start.letters ++ more.filter (· ≠ 'b'), lastField := some (field - 1),
      lastChar := char.getD 0, skipsAfter := more.contains 'b' }
  | _ => wrong "stray character in field spec"

/-- A key without letters of its own takes those of the whole order. -/
def Key.inherit (letters : List Char) (k : Key) : Key :=
  if k.letters.isEmpty && !k.skipsBefore && !k.skipsAfter then
    { k with
      letters := letters.filter (· ≠ 'b'),
      skipsBefore := letters.contains 'b', skipsAfter := letters.contains 'b' }
  else k

/-- The order of lines: by their keys, and at last octet by octet. -/
structure Order where
  keys : List Key
  separator : Option Char
  reversed : Bool
  byKeysOnly : Bool

def Order.byKeys (o : Order) (a b : Octets) : Ordering :=
  o.keys.foldl (fun order k => order.then (k.compare o.separator a b)) .eq

def Order.compare (o : Order) (a b : Octets) : Ordering :=
  (o.byKeys a b).then (if o.byKeysOnly then .eq
    else
      let order := compareOctets a b
      if o.reversed then order.swap else order)

/-- The first of each run of lines that are the same for an order. -/
def distinctLines (o : Order) : List Octets → List Octets
  | [] => []
  | a :: rest =>
    match distinctLines o rest with
    | b :: more => if o.byKeys a b = .eq then a :: more else a :: b :: more
    | [] => [a]

/-- The first line that is out of order, with its number. -/
def disorder (o : Order) (strict : Bool) : Nat → List Octets → Option (Nat × Octets)
  | n, a :: b :: rest =>
    let order := o.compare a b
    if order = .gt || strict && order = .eq then some (n + 1, b)
    else disorder o strict (n + 1) (b :: rest)
  | _, _ => none

end Sorting

open Sorting

/-- Writes a text to a file or to the output. -/
def deliver (i : Invocation) (code : Nat) (file : Option Octets) (text : Octets) : Task Unit := do
  match file with
  | none => put i code text
  | some name =>
    match ← Task.call (.opened name .fresh) with
    | .error e => fail i code ("open failed: " ++ bare name ++ ": " ++ e.text)
    | .ok descriptor =>
      match ← Task.tryWrite descriptor text with
      | none => Task.call (.close descriptor)
      | some e => fail i code ("write failed: " ++ bare name ++ ": " ++ e.text)

/-- Puts lines in order. -/
def sort : Tool := fun i => do
  let o ← options { grammar "bcCdfghik:mMno:rRsS:t:T:uVz" [("ignore-leading-blanks", "b"),
    ("check?", "c"), ("dictionary-order", "d"), ("ignore-case", "f"), ("general-numeric-sort", "g"),
    ("human-numeric-sort", "h"), ("ignore-nonprinting", "i"), ("key=", "k"), ("merge", "m"),
    ("month-sort", "M"), ("numeric-sort", "n"), ("output=", "o"), ("reverse", "r"),
    ("random-sort", "R"), ("stable", "s"), ("buffer-size=", "S"), ("field-separator=", "t"),
    ("temporary-directory=", "T"), ("unique", "u"), ("version-sort", "V"),
    ("zero-terminated", "z"), ("parallel=", "parallel")] with code := 2 } i
  let mark := lineMark o
  let separator ← match o.value? "t" with
    | none => pure none
    | some [] => fail i 2 "empty tab"
    | some [c] => pure (some c)
    | some ['\\', '0'] => pure (some (Char.ofNat 0))
    | some t => fail i 2 ("multi-character tab " ++ inQuotes t)
  let letters := orderLetters.filter fun c => o.has (String.ofList [c])
  let keys ← (o.valuesOf "k").mapM fun k =>
    match keyOf k with
    | .ok k => pure (k.inherit letters)
    | .error message => fail i 2 message
  let whole : Key := ⟨letters.filter (· ≠ 'b'), 0, 0, none, 0, letters.contains 'b', false⟩
  let order : Order := ⟨if keys.isEmpty then [whole] else keys, separator, o.has "r",
    o.has "s" || o.has "u"⟩
  let checks := o.has "c" || o.has "C"
  if checks then
    match o.operands.drop 1 with
    | w :: _ => fail i 2 ("extra operand " ++ inQuotes w ++ " not allowed with -c")
    | [] => pure ()
  let found ← (inputNames o.operands).mapM fun name => do
    match ← openInput name with
    | .error e => fail i 2 ("cannot read: " ++ bare name ++ ": " ++ e.text)
    | .ok descriptor =>
      let r ← readDescriptor descriptor
      closeInput name descriptor
      match r with
      | .error e => fail i 2 ("read failed: " ++ bare name ++ ": " ++ e.text)
      | .ok text => pure (plainLines mark text)
  let lines := found.flatten
  if checks then
    match disorder order (o.has "u") 1 lines with
    | none => return 0
    | some (n, line) =>
      if !o.has "C" && o.value? "c" ≠ some (word "quiet") && o.value? "c" ≠ some (word "silent") then
        complain i ((bare ((inputNames o.operands).headD [])) ++ ":" ++ toString n ++ ": disorder: " ++
          line.spelled)
      return 1
  else
    let sorted := lines.mergeSort fun a b => order.compare a b ≠ .gt
    let sorted := if o.has "u" then distinctLines order sorted else sorted
    deliver i 2 (o.value? "o") (unlines mark sorted)
    return 0

/-! ## Neighbours -/

/-- Runs of lines that are the same in what counts of them. -/
def runsBy (part : Octets → Octets) : List Octets → List (List Octets)
  | [] => []
  | line :: rest =>
    match runsBy part rest with
    | (l :: run) :: more =>
      if part l = part line then (line :: l :: run) :: more else [line] :: (l :: run) :: more
    | _ => [[line]]

/-- A number of something that is passed over. -/
def passedOver (i : Invocation) (o : Options) (key what : String) : Task (Option Nat) :=
  match o.value? key with
  | none => pure none
  | some text =>
    match digits? text with
    | some n => pure (some n)
    | none => fail i 1 (text.spelled ++ ": invalid number of " ++ what)

/-- One line for each run of lines that are the same. -/
def uniq : Tool := fun i => do
  let o ← options (grammar "cdDf:is:uw:z" [("count", "c"), ("repeated", "d"),
    ("all-repeated?", "D"), ("skip-fields=", "f"), ("ignore-case", "i"), ("skip-chars=", "s"),
    ("unique", "u"), ("check-chars=", "w"), ("zero-terminated", "z")]) i
  limitOperands i o 2
  let mark := lineMark o
  let fieldCount ← passedOver i o "f" "fields to skip"
  let charCount ← passedOver i o "s" "bytes to skip"
  let width ← passedOver i o "w" "bytes to compare"
  let part (line : Octets) : Octets :=
    let rest := (skipFields none (fieldCount.getD 0) line).drop (charCount.getD 0)
    let rest := match width with
      | some n => rest.take n
      | none => rest
    if o.has "i" then rest.map Char.toLower else rest
  let name := (inputNames (o.operands.take 1)).headD []
  let text ← match ← readInput name with
    | .ok text => pure text
    | .error .isDirectory => fail i 1 ("error reading " ++ inPlainQuotes name ++ ": Is a directory")
    | .error e => fail i 1 (bare name ++ ": " ++ e.text)
  let runs := runsBy part (plainLines mark text)
  let kept := runs.filter fun r =>
    (!(o.has "d" || o.has "D") || 1 < r.length) && (!o.has "u" || r.length = 1)
  let lines := kept.flatMap fun r =>
    if o.has "D" then r
    else
      let line := r.headD []
      if o.has "c" then
        let ds := Octets.ofNat r.length
        [List.replicate (7 - ds.length) ' ' ++ ds ++ ' ' :: line]
      else [line]
  match o.operands with
  | [_, target] =>
    if target = ['-'] then put i 1 (unlines mark lines)
    else match ← Task.call (.opened target .fresh) with
      | .error e => fail i 1 (bare target ++ ": " ++ e.text)
      | .ok descriptor =>
        let _ ← Task.write descriptor (unlines mark lines)
  | _ => put i 1 (unlines mark lines)
  return 0

/-! ## Ordered texts -/

/-- Lines with the column that they belong to: of the first text, of the second, of both. -/
def merged : Nat → List Octets → List Octets → List (Nat × Octets)
  | 0, _, _ => []
  | _, [], bs => bs.map (2, ·)
  | _, as, [] => as.map (1, ·)
  | n + 1, a :: as, b :: bs =>
    match compareOctets a b with
    | .lt => (1, a) :: merged n as (b :: bs)
    | .gt => (2, b) :: merged n (a :: as) bs
    | .eq => (3, a) :: merged n as bs

/-- Lines that two ordered texts have in common and apart. -/
def comm : Tool := fun i => do
  let o ← options (grammar "123z" [("check-order", "check"), ("nocheck-order", "nocheck"),
    ("output-delimiter=", "delimiter"), ("total", "total"), ("zero-terminated", "z")]) i
  needOperands i o 2
  limitOperands i o 2
  let mark := lineMark o
  let read (name : Octets) : Task (List Octets) := do
    match ← readInput name with
    | .ok text => return plainLines mark text
    | .error e => fail i 1 (bare name ++ ": " ++ e.text)
  let as ← read (o.operands.headD [])
  let bs ← read (o.operands.getD 1 [])
  let delimiter := (o.value? "delimiter").getD ['\t']
  let shown (k : Nat) : Bool := !o.has (toString k)
  let found := merged (as.length + bs.length + 1) as bs
  let lines := (found.filter fun (k, _) => shown k).map fun (k, line) =>
    let before := (List.range k).filter fun c => 1 ≤ c && shown c
    (before.flatMap fun _ => delimiter) ++ line
  let count (k : Nat) : Octets := Octets.ofNat (found.filter fun f => f.1 = k).length
  let total := if o.has "total" then
      [delimiter.intercalate [count 1, count 2, count 3, word "total"]]
    else []
  put i 1 (unlines mark (lines ++ total))
  let plain : Order := ⟨[], none, false, false⟩
  let wrong := [(1, as), (2, bs)].filter fun (_, lines) => (disorder plain false 1 lines).isSome
  if !o.has "nocheck" && !wrong.isEmpty && (o.has "check" || found.any fun f => f.1 ≠ 3) then
    wrong.forM fun (k, _) => complain i ("file " ++ toString k ++ " is not in sorted order")
    fail i 1 "input is not in sorted order"
  return 0

end Worksheet.Host.Tools
