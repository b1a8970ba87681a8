-- Whole-number expressions of the command language. Numbers are words of 64 bits.
import Worksheet.Host.Shell.State

namespace Worksheet.Host.Shell

open Text (Octets)

namespace Arithmetic

/-- An expression as it is read: its whole text, what is left of it, and the variables as they
are. -/
structure Reading where
  whole : Octets
  rest : Octets
  values : List (Octets × Octets)

/-- Why an expression has no value: a message says so, or the processor gives up. -/
inductive Failure
  | said (message : String)
  | halted
  deriving DecidableEq, Repr

abbrev Reader := StateT Reading (Except Failure)

def wrap (n : Int) : Int := Int.bmod n 18446744073709551616

def truth (b : Bool) : Int := if b then 1 else 0

def blanks : Reader Unit :=
  modify fun r =>
    { r with rest := r.rest.dropWhile fun c => c = ' ' || c = '\t' || c = '\n' }

def fail {α : Type} (message : String) : Reader α := do
  throw (.said ("arithmetic expression: " ++ message ++ ": \"" ++ (← get).whole.spelled ++ "\""))

/-- Takes a sign if it comes next and is not the start of a longer one. -/
def accept (sign : String) (notBefore : List Char) : Reader Bool := do
  blanks
  let text := (← get).rest
  let after := text.drop sign.length
  if sign.toList.isPrefixOf text && !(after.head?.any notBefore.contains) then
    modify fun r => { r with rest := after }
    return true
  else return false

/-- The greatest and the least number. -/
def clamp (n : Int) : Int := max (-9223372036854775808) (min 9223372036854775807 n)

def digitValue (c : Char) : Nat :=
  if c.isDigit then c.toNat - '0'.toNat
  else if 'a' ≤ c && c ≤ 'f' then c.toNat - 'a'.toNat + 10
  else if 'A' ≤ c && c ≤ 'F' then c.toNat - 'A'.toNat + 10
  else 99

/-- Digits in a base at the front of a text, and what follows them. -/
def digitsAt (base : Nat) (text : Octets) : Nat × Octets :=
  let ds := text.takeWhile fun c => digitValue c < base
  (ds.foldl (fun n c => base * n + digitValue c) 0, text.drop ds.length)

/-- The number at the front of a text; its first digits tell its base. -/
def numberAt (text : Octets) : Nat × Octets :=
  let hexadecimal (rest : Octets) : Nat × Octets :=
    if rest.head?.any fun c => digitValue c < 16 then digitsAt 16 rest else digitsAt 8 text
  match text with
  | '0' :: 'x' :: rest => hexadecimal rest
  | '0' :: 'X' :: rest => hexadecimal rest
  | '0' :: _ => digitsAt 8 text
  | _ => digitsAt 10 text

def isSpace (c : Char) : Bool := c = ' ' || (9 ≤ c.toNat && c.toNat ≤ 13)

/-- The number that the value of a variable is; a blank one is zero. -/
def numberOf (text : Octets) : Option Int :=
  let body := text.dropWhile isSpace
  let (negative, body) := match body with
    | '-' :: rest => (true, rest)
    | '+' :: rest => (false, rest)
    | rest => (false, rest)
  if (text.dropWhile isSpace).isEmpty then some 0
  else if !body.head?.any Char.isDigit then none
  else
    let (n, rest) := numberAt body
    let v : Int := if negative then -(n : Int) else n
    if (rest.dropWhile isSpace).isEmpty && clamp v = v then some v else none

/-- The value of a variable; one that is missing is zero. -/
def valueOf (live : Bool) (name : Octets) : Reader Int := do
  if !live then return 0
  match (← get).values.lookup name with
  | none => return 0
  | some text =>
    match numberOf text with
    | some n => return n
    | none => throw (.said ("Illegal number: " ++ text.spelled))

/-- Operators of two sides, by strength, with the characters that must not follow. -/
def operators : List (List (String × List Char)) :=
  [[("||", [])], [("&&", [])], [("|", ['|', '='])], [("^", ['='])], [("&", ['&', '='])],
    [("==", []), ("!=", [])], [("<=", []), (">=", []), ("<", ['<']), (">", ['>'])],
    [("<<", ['=']), (">>", ['='])], [("+", ['=']), ("-", ['='])],
    [("*", ['=']), ("/", ['=']), ("%", ['='])]]

/-- The value of an operator. The one quotient that is no word of 64 bits stops the processor. -/
def apply (live : Bool) (sign : String) (a b : Int) : Reader Int := do
  match sign with
  | "||" => return truth (a ≠ 0 || b ≠ 0)
  | "&&" => return truth (a ≠ 0 && b ≠ 0)
  | "|" => return (BitVec.ofInt 64 a ||| BitVec.ofInt 64 b).toInt
  | "^" => return (BitVec.ofInt 64 a ^^^ BitVec.ofInt 64 b).toInt
  | "&" => return (BitVec.ofInt 64 a &&& BitVec.ofInt 64 b).toInt
  | "==" => return truth (a = b)
  | "!=" => return truth (a ≠ b)
  | "<=" => return truth (a ≤ b)
  | ">=" => return truth (b ≤ a)
  | "<" => return truth (a < b)
  | ">" => return truth (b < a)
  | "<<" => return (BitVec.ofInt 64 a <<< (b % 64).toNat).toInt
  | ">>" => return (BitVec.ofInt 64 a).sshiftRight (b % 64).toNat |>.toInt
  | "+" => return wrap (a + b)
  | "-" => return wrap (a - b)
  | "*" => return wrap (a * b)
  | _ =>
    if b = 0 then if live then fail "division by zero" else return 0
    else if b = -1 && a = -9223372036854775808 then if live then throw .halted else return 0
    else if sign = "/" then return Int.tdiv a b
    else return Int.tmod a b

def acceptOne : List (String × List Char) → Reader (Option String)
  | [] => pure none
  | (sign, notBefore) :: more => do
    if ← accept sign notBefore then return some sign else acceptOne more

/-- Assignments with an operation. -/
def assignments : List String := ["*=", "/=", "%=", "+=", "-=", "<<=", ">>=", "&=", "^=", "|="]

mutual

/-- An expression; one that is not live has no effects. -/
def whole : Nat → Bool → Reader Int
  | 0, _ => fail "too deep"
  | n + 1, live => do
    blanks
    let before ← get
    let name := before.rest.takeWhile isNameChar
    if isName name then
      modify fun r => { r with rest := r.rest.drop name.length }
      let put (v : Int) : Reader Int := do
        if live then modify fun r => { r with values := (name, Octets.ofInt v) :: r.values }
        return v
      if ← accept "=" ['='] then put (← whole n live)
      else
        match ← acceptOne (assignments.map fun a => (a, [])) with
        | some a => do
          let v ← whole n live
          let old ← valueOf live name
          put (← apply live (String.ofList (a.toList.take (a.length - 1))) old v)
        | none => do
          set before
          ternary n live
    else ternary n live

def ternary : Nat → Bool → Reader Int
  | 0, _ => fail "too deep"
  | n + 1, live => do
    let c ← level n 0 live
    if ← accept "?" [] then
      let a ← whole n (live && c ≠ 0)
      if ← accept ":" [] then
        let b ← ternary n (live && c = 0)
        return if c ≠ 0 then a else b
      else fail "expecting ':'"
    else return c

def level : Nat → Nat → Bool → Reader Int
  | 0, _, _ => fail "too deep"
  | n + 1, k, live => do
    if k < operators.length then
      let a ← level n (k + 1) live
      more n k live a
    else unary n live

def more : Nat → Nat → Bool → Int → Reader Int
  | 0, _, _, _ => fail "too deep"
  | n + 1, k, live, a => do
    match ← acceptOne (operators.getD k []) with
    | none => return a
    | some sign =>
      let needed := live && !(sign = "||" && a ≠ 0) && !(sign = "&&" && a = 0)
      let b ← level n (k + 1) needed
      more n k live (← apply live sign a b)

def unary : Nat → Bool → Reader Int
  | 0, _ => fail "too deep"
  | n + 1, live => do
    if ← accept "!" ['='] then return truth ((← unary n live) = 0)
    else if ← accept "~" [] then return wrap (-(← unary n live) - 1)
    else if ← accept "-" [] then return wrap (-(← unary n live))
    else if ← accept "+" [] then unary n live
    else if ← accept "(" [] then
      let v ← whole n live
      if ← accept ")" [] then return v else fail "expecting ')'"
    else
      let text := (← get).rest
      let name := text.takeWhile isNameChar
      if isName name then
        modify fun r => { r with rest := r.rest.drop name.length }
        valueOf live name
      else if text.head?.any Char.isDigit then
        let (v, rest) := numberAt text
        modify fun r => { r with rest := rest }
        return clamp v
      else fail "expecting primary"

end

/-- The value of an expression, and the variables that it changes. -/
def eval (text : Octets) (values : List (Octets × Octets)) :
    Except Failure (Int × List (Octets × Octets)) := do
  let (v, r) ← (whole (30 * text.length + 60) true).run ⟨text, text, values⟩
  if (r.rest.dropWhile fun c => c = ' ' || c = '\t' || c = '\n').isEmpty then
    return (v, (r.values.take (r.values.length - values.length)).reverse)
  else throw (.said ("arithmetic expression: expecting EOF: \"" ++ text.spelled ++ "\""))

end Arithmetic

end Worksheet.Host.Shell
