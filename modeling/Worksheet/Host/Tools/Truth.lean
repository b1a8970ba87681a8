-- The tool that tells the truth of a condition on texts, numbers and files by its exit code.
import Worksheet.Host.Program
import Worksheet.Host.Tools.Basic

namespace Worksheet.Host.Tools

open Text (Octets)

namespace Truth

/-- What a reading of a condition comes to: its truth and the words that are left, or what is wrong
with it. -/
abbrev Reading := Except String (Bool × List Octets)

/-- A reading that needs a word more. -/
def beyond (all : List Octets) : Reading :=
  .error ("missing argument after " ++ inQuotes (all.getLast?.getD []))

def comparisons : List String := ["-eq", "-ne", "-lt", "-le", "-gt", "-ge"]

def isBinary (w : Octets) : Bool :=
  (["=", "!=", "==", "-nt", "-ot", "-ef"] ++ comparisons).contains w.spelled

/-- A word of a dash and one letter. -/
def letterOf (w : Octets) : Option Char :=
  match w with
  | ['-', c] => some c
  | _ => none

/-- A whole number between white space. -/
def number? (text : Octets) : Option Int :=
  let isSpace (c : Char) : Bool := c = ' ' || c = '\t'
  let body := text.dropWhile isSpace
  let (negative, body) := match body with
    | '-' :: r => (true, r)
    | '+' :: r => (false, r)
    | r => (false, r)
  let ds := body.takeWhile Char.isDigit
  if ds.isEmpty || !(body.drop ds.length).all isSpace then none
  else
    let n : Int := ds.foldl (fun n c => 10 * n + (c.toNat - '0'.toNat)) 0
    some (if negative then -n else n)

def compare (op : String) (a b : Int) : Bool :=
  match op with
  | "-eq" => a = b
  | "-ne" => a ≠ b
  | "-lt" => a < b
  | "-le" => a ≤ b
  | "-gt" => a > b
  | _ => a ≥ b

/-- A comparison of two words. A number may be the length of a word. -/
def binary (lengths : Bool × Bool) (a op b : Octets) : Task (Except String Bool) := do
  match op.spelled with
  | "=" => return .ok (a = b)
  | "==" => return .ok (a = b)
  | "!=" => return .ok (a ≠ b)
  | "-nt" =>
    match ← Task.call (.modified true b) with
    | .error _ => return .ok ((← Task.call (.modified true a)).toBool)
    | .ok _ => return .ok ((← Facts.isNewer a b).getD false)
  | "-ot" =>
    match ← Task.call (.modified true a) with
    | .error _ => return .ok ((← Task.call (.modified true b)).toBool)
    | .ok _ => return .ok ((← Facts.isNewer b a).getD false)
  | "-ef" => return .ok (← Facts.isSame a b)
  | name =>
    let value (length : Bool) (w : Octets) : Option Int :=
      if length then some w.length else number? w
    match value lengths.1 a, value lengths.2 b with
    | some x, some y => return .ok (compare name x y)
    | none, _ => return .error ("invalid integer " ++ inQuotes a)
    | some _, none => return .error ("invalid integer " ++ inQuotes b)

/-- A comparison at the front of some words; before either side can stand a mark for lengths. -/
def comparison (all : List Octets) (leftLength : Bool) (words : List Octets) : Task Reading := do
  let words := if leftLength then words.drop 1 else words
  match words with
  | a :: op :: rest =>
    let (rightLength, rest) := match rest with
      | ['-', 'l'] :: b :: rest => (true, b :: rest)
      | rest => (false, rest)
    match rest with
    | [] => return beyond all
    | b :: rest =>
      match ← binary (leftLength, rightLength) a op b with
      | .ok r => return .ok (r, rest)
      | .error e => return .error e
  | _ => return beyond all

def unary (all : List Octets) (letter : Char) (words : List Octets) : Task Reading := do
  let known := "abcdefghknprstuwxzGLONS".toList.contains letter
  match words with
  | op :: rest =>
    if !known || letter = 'a' then return .error (inQuotes op ++ ": unary operator expected")
    else match rest with
      | [] => return beyond all
      | w :: rest =>
        if letter = 'n' then return .ok (!w.isEmpty, rest)
        else if letter = 'z' then return .ok (w.isEmpty, rest)
        else if letter = 't' then
          match number? w with
          | some _ => return .ok (false, rest)
          | none => return .error ("invalid integer " ++ inQuotes w)
        else return .ok (← Facts.ask letter w, rest)
  | [] => return beyond all

def one (words : List Octets) : Reading :=
  match words with
  | w :: rest => .ok (!w.isEmpty, rest)
  | [] => .ok (false, [])

def negate : Reading → Reading
  | .ok (r, rest) => .ok (!r, rest)
  | .error e => .error e

def two (all : List Octets) (words : List Octets) : Task Reading := do
  match words with
  | ['!'] :: rest => return negate (one rest)
  | w :: _ =>
    match letterOf w with
    | some letter => unary all letter words
    | none => return beyond all
  | [] => return beyond all

mutual

/-- Alternatives; each is looked at, whatever those before it say. -/
def alternatives : Nat → List Octets → List Octets → Bool → Task Reading
  | 0, _, _, _ => pure (.error "too long")
  | n + 1, all, words, found => do
    match ← conjunction n all words true with
    | .error e => return .error e
    | .ok (r, ['-', 'o'] :: rest) => alternatives n all rest (found || r)
    | .ok (r, rest) => return .ok (found || r, rest)

def conjunction : Nat → List Octets → List Octets → Bool → Task Reading
  | 0, _, _, _ => pure (.error "too long")
  | n + 1, all, words, found => do
    match ← term n all words with
    | .error e => return .error e
    | .ok (r, ['-', 'a'] :: rest) => conjunction n all rest (found && r)
    | .ok (r, rest) => return .ok (found && r, rest)

def term : Nat → List Octets → List Octets → Task Reading
  | 0, _, _ => pure (.error "too long")
  | n + 1, all, words => do
    match words with
    | [] => return beyond all
    | ['!'] :: rest => return negate (← term n all rest)
    | ['('] :: rest =>
      if rest.isEmpty then return beyond all
      else
        let inside := 1 + ((rest.drop 1).takeWhile (· ≠ [')'])).length
        let count := if 4 < inside then rest.length else inside
        match ← whole n all count rest with
        | .error e => return .error e
        | .ok (r, [')'] :: rest) => return .ok (r, rest)
        | .ok (_, w :: _) => return .error (inQuotes [')'] ++ " expected, found " ++ inQuotes w)
        | .ok (_, []) => return .error (inQuotes [')'] ++ " expected")
    | w :: rest =>
      if w = ['-', 'l'] && 3 ≤ rest.length && isBinary (rest.getD 1 []) then
        comparison all true words
      else if 2 ≤ rest.length && isBinary (rest.headD []) then comparison all false words
      else match letterOf w with
        | some letter => unary all letter words
        | none => return .ok (!w.isEmpty, rest)

/-- A condition of so many words. Up to four words have rules of their own. -/
def whole : Nat → List Octets → Nat → List Octets → Task Reading
  | 0, _, _, _ => pure (.error "too long")
  | n + 1, all, count, words => do
    match count, words with
    | 1, words => return one words
    | 2, words => two all words
    | 3, words => three n all words
    | 4, ['!'] :: rest => return negate (← three n all rest)
    | 4, ['('] :: rest =>
      if rest.getD 2 [] = [')'] then
        match ← two all (rest.take 2) with
        | .ok (r, left) => return .ok (r, left ++ rest.drop 3)
        | .error e => return .error e
      else alternatives n all words false
    | _, words => alternatives n all words false

def three : Nat → List Octets → List Octets → Task Reading
  | 0, _, _ => pure (.error "too long")
  | n + 1, all, words => do
    match words with
    | a :: op :: b :: rest =>
      if isBinary op then comparison all false words
      else if a = ['!'] then return negate (← two all (op :: b :: rest))
      else if a = ['('] && b = [')'] then return .ok (!op.isEmpty, rest)
      else if op = ['-', 'a'] || op = ['-', 'o'] then alternatives n all words false
      else return .error (inQuotes op ++ ": binary operator expected")
    | _ => return beyond all

end

/-- The truth of all the words. -/
def of (words : List Octets) : Task (Except String Bool) := do
  if words.isEmpty then return .ok false
  match ← whole (8 * words.length + 8) words words.length words with
  | .error e => return .error e
  | .ok (_, w :: _) => return .error ("extra argument " ++ inQuotes w)
  | .ok (r, []) => return .ok r

end Truth

/-- Tells the truth of a condition; in its bracket form the last word closes the bracket. -/
def condition (bracket : Bool) : Tool := fun i => do
  if bracket && i.words.getLast? ≠ some [']'] then fail i 2 ("missing " ++ inQuotes [']'])
  match ← Truth.of (if bracket then i.words.dropLast else i.words) with
  | .ok r => return codeOf r
  | .error e => fail i 2 e

end Worksheet.Host.Tools
