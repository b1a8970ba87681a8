-- Reading JSON. The grammar is the strict one, with the words `NaN` and `Infinity` added. A reader
-- may have limits: on how deep values nest, and on how many digits a number starts with.
import Worksheet.Json.Value

namespace Worksheet

namespace Json

/-- What a reader accepts: a chain of so many arrays and objects that each hold something, and so
many digits in front of the point of a number. -/
structure Limits where
  depth : Nat
  digits : Nat
  deriving DecidableEq, Repr

namespace Limits

def strict : Limits := ⟨200, 4300⟩

def generous : Limits := ⟨100000, 100000⟩

end Limits

/-- A reader takes a value off the front of a text, or fails. -/
abbrev Taker (α : Type) := List Char → Option (α × List Char)

def isJsonBlank (c : Char) : Bool := c = ' ' || c = '\n' || c = '\r' || c = '\t'

def skipBlanks (cs : List Char) : List Char := cs.dropWhile isJsonBlank

/-! ## Strings -/

def hexValue? (c : Char) : Option Nat :=
  if '0' ≤ c && c ≤ '9' then some (c.toNat - 0x30)
  else if 'a' ≤ c && c ≤ 'f' then some (c.toNat - 0x57)
  else if 'A' ≤ c && c ≤ 'F' then some (c.toNat - 0x37)
  else none

/-- The unit of four hexadecimal digits. -/
def unit? (a b c d : Char) : Option Nat := do
  let a ← hexValue? a
  let b ← hexValue? b
  let c ← hexValue? c
  let d ← hexValue? d
  some (4096 * a + 256 * b + 16 * c + d)

def isHighUnit (u : Nat) : Bool := 0xD800 ≤ u && u < 0xDC00

def isLowUnit (u : Nat) : Bool := 0xDC00 ≤ u && u < 0xE000

/-- The character of two units that make a pair. -/
def pair? (u v : Nat) : Option Char :=
  if isLowUnit v then some (Char.ofNat (0x10000 + (u - 0xD800) * 1024 + (v - 0xDC00))) else none

def unescape? (c : Char) : Option Char :=
  if c = '"' || c = '\\' || c = '/' then some c
  else if c = 'n' then some '\n'
  else if c = 'r' then some '\r'
  else if c = 't' then some '\t'
  else if c = 'b' then some (Char.ofNat 8)
  else if c = 'f' then some (Char.ofNat 12)
  else none

/-- The characters up to the closing quote, after those already read (latest first). -/
def takeChars (found : List Char) : Taker (List Char)
  | '"' :: rest => some (found.reverse, rest)
  | '\\' :: 'u' :: a :: b :: c :: d :: rest =>
    match unit? a b c d with
    | none => none
    | some u =>
      if isHighUnit u then
        match rest with
        | '\\' :: 'u' :: a :: b :: c :: d :: rest' =>
          match (unit? a b c d).bind (pair? u) with
          | some x => takeChars (x :: found) rest'
          | none => none
        | _ => none
      else if isLowUnit u then none
      else takeChars (Char.ofNat u :: found) rest
  | '\\' :: e :: rest =>
    match unescape? e with
    | some d => takeChars (d :: found) rest
    | none => none
  | c :: rest => if c = '\\' || c.toNat < 0x20 then none else takeChars (c :: found) rest
  | [] => none

/-- A string, after its opening quote. -/
def takeString (cs : List Char) : Option (String × List Char) :=
  (takeChars [] cs).map fun (found, rest) => (String.ofList found, rest)

/-! ## Numbers -/

def takeDigits (cs : List Char) : List Char × List Char :=
  (cs.takeWhile NumberText.isDecimal, cs.dropWhile NumberText.isDecimal)

/-- The fraction of a number, with at least one digit, or nothing. -/
def takeFraction : Taker (List Char)
  | '.' :: rest =>
    let (ds, rest') := takeDigits rest
    if ds.isEmpty then none else some (ds, rest')
  | cs => some ([], cs)

/-- The exponent of a number, with at least one digit, or nothing. -/
def takeExponent : Taker (Option Int)
  | c :: rest =>
    if c = 'e' || c = 'E' then
      let (negative, rest') := NumberText.takeSign rest
      let (ds, rest'') := takeDigits rest'
      if ds.isEmpty then none
      else
        let n : Int := Text.digitsValue ds
        some (some (if negative then -n else n), rest'')
    else some (none, c :: rest)
  | [] => some (none, [])

/-- A number without its sign. It is whole when it has neither a fraction nor an exponent. -/
def takeUnsigned (limit : Nat) (negative : Bool) (cs : List Char) :
    Option (Json × List Char) := do
  let (ds, rest) := takeDigits cs
  if ds.isEmpty || (ds.head? = some '0' && ds.length ≠ 1) || limit < ds.length then none
  else
    let (part, rest) ← takeFraction rest
    let (e, rest) ← takeExponent rest
    if part.isEmpty && e.isNone then
      let n : Int := Text.digitsValue ds
      some (.integer (if negative then -n else n), rest)
    else
      let numeral : Numeral :=
        ⟨negative, Text.digitsValue (ds ++ part), e.getD 0 - part.length⟩
      some (.real numeral.toDouble, rest)

/-! ## Values -/

/-- Takes a word off the front of a text. -/
def takeWord (word : String) (cs : List Char) : Option (List Char) :=
  let w := word.toList
  if cs.take w.length = w then some (cs.drop w.length) else none

/-- The words that stand for values. -/
def words : List (String × Json) :=
  [("null", .null), ("true", .bool true), ("false", .bool false), ("NaN", .real .nan),
    ("Infinity", .real (.infinite false)), ("-Infinity", .real (.infinite true))]

def takeNumberOrWord (limit : Nat) (cs : List Char) : Option (Json × List Char) :=
  match words.findSome? fun (w, v) => (takeWord w cs).map fun rest => (v, rest) with
  | some found => some found
  | none =>
    match cs with
    | '-' :: rest => takeUnsigned limit true rest
    | _ => takeUnsigned limit false cs

/-- Items up to the closing bracket, after at least one. -/
def takeItems (value : Taker Json) : Nat → List Json → Taker (List Json)
  | 0, _, _ => none
  | fuel + 1, found, cs =>
    match skipBlanks cs with
    | ']' :: rest => some (found.reverse, rest)
    | ',' :: rest =>
      match value (skipBlanks rest) with
      | some (v, rest') => takeItems value fuel (v :: found) rest'
      | none => none
    | _ => none

def takeField (value : Taker Json) (cs : List Char) : Option ((String × Json) × List Char) :=
  match skipBlanks cs with
  | '"' :: rest => do
    let (key, rest) ← takeString rest
    match skipBlanks rest with
    | ':' :: rest =>
      let (v, rest) ← value (skipBlanks rest)
      some ((key, v), rest)
    | _ => none
  | _ => none

/-- Fields up to the closing brace, after at least one. -/
def takeFields (value : Taker Json) :
    Nat → List (String × Json) → Taker (List (String × Json))
  | 0, _, _ => none
  | fuel + 1, found, cs =>
    match skipBlanks cs with
    | '\x7d' :: rest => some (found, rest)
    | ',' :: rest =>
      match takeField value rest with
      | some ((k, v), rest') => takeFields value fuel (setField k v found) rest'
      | none => none
    | _ => none

/-- A value. Only an array or an object that holds something takes up a level. -/
def takeValue (digits : Nat) : (depth : Nat) → Taker Json
  | _, '"' :: rest => (takeString rest).map fun (s, rest') => (.string s, rest')
  | depth, '[' :: rest =>
    match skipBlanks rest, depth with
    | ']' :: rest', _ => some (.array [], rest')
    | _, 0 => none
    | rest', depth + 1 =>
      match takeValue digits depth rest' with
      | some (v, rest'') =>
        (takeItems (takeValue digits depth) rest''.length [v] rest'').map fun (items, tail) =>
          (.array items, tail)
      | none => none
  | depth, '\x7b' :: rest =>
    match skipBlanks rest, depth with
    | '\x7d' :: rest', _ => some (.object [], rest')
    | _, 0 => none
    | rest', depth + 1 =>
      match takeField (takeValue digits depth) rest' with
      | some ((k, v), rest'') =>
        (takeFields (takeValue digits depth) rest''.length [(k, v)] rest'').map
          fun (fields, tail) => (.object fields, tail)
      | none => none
  | _, cs => takeNumberOrWord digits cs

def read (limits : Limits) (cs : List Char) : Option Json :=
  match takeValue limits.digits limits.depth (skipBlanks cs) with
  | some (v, rest) => if (skipBlanks rest).isEmpty then some v else none
  | none => none

end Json

end Worksheet
