-- The tool that exchanges characters for others, deletes them, or squeezes their repetitions.
import Worksheet.Host.Tools.Regex
import Worksheet.Host.Tools.Streams

namespace Worksheet.Host.Tools

open Text (Octets)

namespace Exchange

/-! ## Sets -/

/-- An element of a set as it is written. A repetition without a number fills up what is missing. -/
inductive Element
  | char (c : Char)
  | range (low high : Char)
  | named (name : String)
  | alike (c : Char)
  | repeated (c : Char) (count : Option Nat)
  deriving DecidableEq, Repr

/-- A character of a set; one that stood behind a backslash has no other meaning. -/
abbrev Sign := Char × Bool

def escapes : List (Char × Char) :=
  [('a', '\x07'), ('b', '\x08'), ('f', '\x0c'), ('n', '\n'), ('r', '\x0d'), ('t', '\t'), ('v', '\x0b')]

def isOctal (c : Char) : Bool := '0' ≤ c && c ≤ '7'

def octal (digits : Octets) : Nat := digits.foldl (fun n c => 8 * n + (c.toNat - '0'.toNat)) 0

/-- Signs of a set, with warnings about unclear backslashes. -/
def signs : Nat → Octets → List Sign × List String
  | 0, _ => ([], [])
  | n + 1, text =>
    match text with
    | [] => ([], [])
    | ['\\'] =>
      ([('\\', false)], ["warning: an unescaped backslash at end of string is not portable"])
    | '\\' :: c :: rest =>
      if isOctal c then
        let ds := ((c :: rest).take 3).takeWhile isOctal
        let (ds, warning) := if 255 < octal ds then
            (ds.take 2, ["warning: the ambiguous octal escape \\" ++ String.ofList ds ++
              " is being\n\tinterpreted as the 2-byte sequence \\0" ++ String.ofList (ds.take 2) ++
              ", " ++ String.ofList (ds.drop 2)])
          else (ds, [])
        let (more, warnings) := signs n ((c :: rest).drop ds.length)
        ((Char.ofNat (octal ds), true) :: more, warning ++ warnings)
      else
        let (more, warnings) := signs n rest
        (((escapes.lookup c).getD c, true) :: more, warnings)
    | c :: rest =>
      let (more, warnings) := signs n rest
      ((c, false) :: more, warnings)

def plainText (s : List Sign) : Octets := s.map (·.1)

/-- The text between a sign and its twin before a closing bracket, with what follows. -/
def enclosed (mark : Char) (found : List Sign) : List Sign → Option (List Sign × List Sign)
  | (a, qa) :: (b, qb) :: rest =>
    if a = mark && !qa && b = ']' && !qb then some (found.reverse, rest)
    else enclosed mark ((a, qa) :: found) ((b, qb) :: rest)
  | _ => none

/-- A character in a message. -/
def shown (c : Char) : String := Octets.spelled (if 0x20 ≤ c.toNat && c.toNat < 0x7f then [c]
  else Quoting.escaped c)

/-- The number of a repetition, octal behind a zero. -/
def repeatCount (text : List Sign) : Except String (Option Nat) :=
  let digits := plainText text
  let base := if digits.head? = some '0' then 8 else 10
  if digits.isEmpty then .ok none
  else if digits.all fun c => c.isDigit && c.toNat - '0'.toNat < base then
    let n := digits.foldl (fun n c => base * n + (c.toNat - '0'.toNat)) 0
    .ok (if n = 0 then none else some n)
  else .error ("invalid repeat count " ++ inQuotes digits ++ " in [c*n] construct")

/-- An element in brackets; nothing if the bracket stands for itself. -/
def bracketed (text : List Sign) : Except String (Option (Element × List Sign)) :=
  match text with
  | (':', false) :: rest =>
    match enclosed ':' [] rest with
    | some (name, after) =>
      let name := plainText name
      if name.isEmpty then .error "missing character class name '[::]'"
      else if (Regex.classes.lookup name.spelled).isSome then
        .ok (some (.named name.spelled, after))
      else .error ("invalid character class " ++ inQuotes name)
    | none => .ok none
  | ('=', false) :: rest =>
    match enclosed '=' [] rest with
    | some ([(c, _)], after) => .ok (some (.alike c, after))
    | some ([], _) => .error "missing equivalence class character '[==]'"
    | some (name, _) => .error ((plainText name).spelled ++
        ": equivalence class operand must be a single character")
    | none => .ok none
  | (c, _) :: ('*', false) :: rest =>
    let digits := rest.takeWhile fun s => s ≠ (']', false)
    match rest.drop digits.length with
    | _ :: after => do
      match ← repeatCount digits with
      | count => return some (.repeated c count, after)
    | [] => .ok none
  | _ => .ok none

/-- The elements of a set. -/
def elements : Nat → List Sign → Except String (List Element)
  | 0, _ => .ok []
  | n + 1, text => do
    let inBrackets ← match text with
      | ('[', false) :: rest => bracketed rest
      | _ => pure none
    match inBrackets, text with
    | some (e, rest), _ => return e :: (← elements n rest)
    | none, [] => return []
    | none, (a, _) :: ('-', false) :: (b, _) :: rest =>
      if b < a then
        .error ("range-endpoints of '" ++ shown a ++ "-" ++ shown b ++
          "' are in reverse collating sequence order")
      else return .range a b :: (← elements n rest)
    | none, (c, _) :: rest => return .char c :: (← elements n rest)

def allOctets : Octets := (List.range 256).map Char.ofNat

def isIn (ranges : List (Char × Char)) (c : Char) : Bool :=
  ranges.any fun (low, high) => low ≤ c && c ≤ high

def expand (fill : Nat) : Element → Octets
  | .char c => [c]
  | .range low high => allOctets.filter fun c => low ≤ c && c ≤ high
  | .named name => allOctets.filter (isIn ((Regex.classes.lookup name).getD []))
  | .alike c => [c]
  | .repeated c count => List.replicate (count.getD fill) c

/-- The characters of a set, of which so many are wanted. -/
def expandAll (wanted : Nat) (es : List Element) : Octets :=
  let known := (es.flatMap (expand 0)).length
  es.flatMap (expand (wanted - known))

/-! ## What is allowed -/

def isFilling : Element → Bool
  | .repeated _ none => true
  | _ => false

def isNamed : Element → Bool
  | .named _ => true
  | _ => false

def isCase : Element → Bool
  | .named name => name = "upper" || name = "lower"
  | _ => false

/-- The places at which the classes of one case begin in a set. -/
def casePlaces (before : Nat) : List Element → List Nat
  | [] => []
  | e :: rest =>
    let more := casePlaces (before + (expand 0 e).length) rest
    if isCase e then before :: more else more

/-- Why two sets do not go together. -/
def refusal (exchanging complemented truncated : Bool) (first second : List Element) :
    Option String :=
  let a := expandAll 0 first
  let size := if complemented then 256 - (allOctets.filter a.contains).length else a.length
  let b := expandAll size second
  if first.any isFilling then some "the [c*] repeat construct may not appear in string1"
  else if 1 < (second.filter isFilling).length then
    some "only one [c*] repeat construct may appear in string2"
  else if !exchanging then
    if second.any isFilling then
      some "the [c*] construct may appear in string2 only when translating"
    else none
  else if second.any fun e => match e with
      | .alike _ => true
      | _ => false then
    some "[=c=] expressions may not appear in string2 when translating"
  else if second.any fun e => isNamed e && !isCase e then
    some ("when translating, the only character classes that may appear in\n" ++
      "string2 are 'upper' and 'lower'")
  else if !truncated && b.isEmpty && !second.any isFilling then
    some "when not truncating set1, string2 must be non-empty"
  else if (casePlaces 0 second).any fun p => !(casePlaces 0 first).contains p then
    some "misaligned [:upper:] and/or [:lower:] construct"
  else if complemented && first.any isNamed && 1 < b.eraseDups.length then
    some ("when translating with complemented character classes,\n" ++
      "string2 must map all characters in the domain to one")
  else if !truncated && b.length < size && second.getLast?.any isNamed then
    some ("when translating with string1 longer than string2,\n" ++
      "the latter string must not end with a character class")
  else none

/-! ## Exchanging -/

/-- What each character becomes. The last character of the second set stands for all that are
missing, and the last pair of one character counts. -/
def table (truncated : Bool) (first second : Octets) : Array Char :=
  let first := if truncated then first.take second.length else first
  let fill := second.getLast?.getD ' '
  let pairs := first.zip (second ++ List.replicate (first.length - second.length) fill)
  pairs.foldl (fun t (a, b) => t.setIfInBounds a.toNat b) ((Array.range 256).map Char.ofNat)

def members (set : Octets) : Array Bool :=
  set.foldl (fun t c => t.setIfInBounds c.toNat true) (Array.replicate 256 false)

def isMember (t : Array Bool) (c : Char) : Bool := t.getD c.toNat false

/-- Drops repetitions of characters of a set, after what has been kept (latest first); the state
is the last character. -/
def squeeze (set : Array Bool) (kept : Octets) : Option Char → Octets → Octets × Option Char
  | last, [] => (kept.reverse, last)
  | last, c :: rest =>
    squeeze set (if last = some c && isMember set c then kept else c :: kept) (some c) rest

end Exchange

open Exchange

/-- Replaces, deletes or squeezes characters. -/
def tr : Tool := fun i => do
  let o ← options { grammar "AcCdst" [("complement", "c"), ("delete", "d"),
    ("squeeze-repeats", "s"), ("truncate-set1", "t")] with operandsLast := true } i
  let deleting := o.has "d"
  let squeezing := o.has "s"
  let least := if deleting = squeezing then 2 else 1
  let most := if deleting && !squeezing then 1 else 2
  match o.operands with
  | [] => misuse i 1 "missing operand"
  | [a] =>
    if least = 2 then
      complain i ("missing operand after " ++ inQuotes a)
      Task.errText (if squeezing then
          "Two strings must be given when both deleting and squeezing repeats.\n"
        else "Two strings must be given when translating.\n")
      advise i 1
  | words =>
    match words.drop most with
    | [] => pure ()
    | w :: rest =>
      complain i ("extra operand " ++ inQuotes w)
      if rest.isEmpty && most = 1 then
        Task.errText "Only one string may be given when deleting without squeezing repeats.\n"
      advise i 1
  let read (text : Octets) : Task (List Element) := do
    let (s, warnings) := signs (text.length + 1) text
    warnings.forM (complain i)
    match elements (s.length + 1) s with
    | .ok es => return es
    | .error message => fail i 1 message
  let first ← read (o.operands.headD [])
  let second ← read (o.operands.getD 1 [])
  let exchanging := o.operands.length = 2 && !deleting
  let complemented := o.has "c" || o.has "C"
  match refusal exchanging complemented (o.has "t") first second with
  | some message => fail i 1 message
  | none => pure ()
  let a := expandAll 0 first
  let a := if complemented then allOctets.filter fun c => !a.contains c else a
  let b := expandAll a.length second
  let run (change : Octets → Octets) (set : Octets) : Task Nat := do
    let set := members set
    let step (last : Option Char) (text : Octets) : Octets × Option (Option Char) × Nat :=
      let (text, last) := squeeze set [] last (change text)
      (text, some last, 0)
    match ← passAfter i 0 (fun _ => Task.chunkSize) step Task.limit none with
    | .ok _ => return 0
    | .error e => fail i 1 ("read error: " ++ e.text)
  if deleting then
    let gone := members a
    run (fun text => text.filter fun c => !isMember gone c) (if squeezing then b else [])
  else if exchanging then
    let t := table (o.has "t") a b
    run (fun text => text.map fun c => t.getD c.toNat c) (if squeezing then b else [])
  else run id a

end Worksheet.Host.Tools
