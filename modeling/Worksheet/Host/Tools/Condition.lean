-- Conditions on texts, numbers and files, as they are written on a command line.
import Worksheet.Host.Program
import Worksheet.Host.Tools.Printing

namespace Worksheet.Host

open Text (Octets)

namespace Condition

/-- What is wrong with a condition. -/
abbrev Complaint := String

def whole? (text : Octets) : Option Int :=
  let body := Text.Octets.spelled text |>.toList
  let body := (body.dropWhile fun c => c = ' ' || c = '\t' || c = '\n').reverse
  let body := (body.dropWhile fun c => c = ' ' || c = '\t' || c = '\n').reverse
  let (negative, ds) := match body with
    | '-' :: r => (true, r)
    | '+' :: r => (false, r)
    | r => (false, r)
  if ds.isEmpty || !ds.all Char.isDigit then none
  else
    let n : Int := Printing.numberIn ds
    some (if negative then -n else n)

def illegal (text : Octets) : Complaint := "Illegal number: " ++ text.spelled

/-- A complaint about a word; one that is empty is not named. -/
def about (w : Octets) (message : String) : Complaint :=
  if w.isEmpty then message else w.spelled ++ ": " ++ message

def unaryOps : List String :=
  ["-e", "-f", "-d", "-r", "-w", "-x", "-s", "-z", "-n", "-t", "-h", "-L", "-b", "-c", "-p",
    "-S", "-u", "-g", "-k", "-O", "-G"]

def binaryOps : List String :=
  ["=", "!=", "<", ">", "-eq", "-ne", "-lt", "-le", "-gt", "-ge", "-nt", "-ot", "-ef"]

def isUnary (w : Octets) : Bool := unaryOps.contains w.spelled

def isBinary (w : Octets) : Bool := binaryOps.contains w.spelled

def unary (op operand : Octets) : Task (Except Complaint Bool) := do
  match op.spelled with
  | "-z" => return .ok operand.isEmpty
  | "-n" => return .ok !operand.isEmpty
  | "-t" =>
    match whole? operand with
    | some _ => return .ok false
    | none => return .error (illegal operand)
  | _ => return .ok (← Facts.ask (op.getLast?.getD 'e') operand)

def compareNumbers (op : String) (a b : Int) : Bool :=
  match op with
  | "-eq" => a = b
  | "-ne" => a ≠ b
  | "-lt" => a < b
  | "-le" => a ≤ b
  | "-gt" => a > b
  | _ => a ≥ b

def binary (a op b : Octets) : Task (Except Complaint Bool) := do
  match op.spelled with
  | "=" => return .ok (a = b)
  | "!=" => return .ok (a ≠ b)
  | "<" => return .ok (decide (String.ofList a < String.ofList b))
  | ">" => return .ok (decide (String.ofList b < String.ofList a))
  | "-nt" => return .ok ((← Facts.isNewer a b).getD false)
  | "-ot" => return .ok ((← Facts.isNewer b a).getD false)
  | "-ef" => return .ok (← Facts.isSame a b)
  | name =>
    match whole? a, whole? b with
    | some x, some y => return .ok (compareNumbers name x y)
    | none, _ => return .error (illegal a)
    | some _, none => return .error (illegal b)

/-! ## Reading -/

/-- What a word is taken for, with the words after it. -/
inductive Sign
  | nothing
  | operand
  | unary
  | binary
  | both
  | either
  | negation
  | opening
  | closing
  deriving DecidableEq

/-- A word with an operator of one side is an operand at the end, and before an operator of two
sides that has a word after it. -/
def sign : List Octets → Sign
  | [] => .nothing
  | w :: rest =>
    let isOperand : Bool := match rest with
      | [] => true
      | [_] => false
      | v :: _ => isBinary v
    if isUnary w then if isOperand then .operand else .unary
    else if isBinary w then .binary
    else match w.spelled with
      | "-a" => .both
      | "-o" => .either
      | "!" => .negation
      | "(" => if rest.isEmpty then .operand else .opening
      | ")" => .closing
      | _ => .operand

/-- A truth, with the words from the last one that was used. -/
abbrev Reading := Except Complaint (Bool × List Octets)

mutual

def disjunction : Nat → Sign → List Octets → Task Reading
  | 0, _, _ => pure (.error "too long")
  | n + 1, first, words => do
    match ← conjunction n first words with
    | .error e => return .error e
    | .ok (a, words) =>
      if sign (words.drop 1) = .either then
        match ← disjunction n (sign (words.drop 2)) (words.drop 2) with
        | .error e => return .error e
        | .ok (b, words) => return .ok (a || b, words)
      else return .ok (a, words)

def conjunction : Nat → Sign → List Octets → Task Reading
  | 0, _, _ => pure (.error "too long")
  | n + 1, first, words => do
    match ← negated n first words with
    | .error e => return .error e
    | .ok (a, words) =>
      if sign (words.drop 1) = .both then
        match ← conjunction n (sign (words.drop 2)) (words.drop 2) with
        | .error e => return .error e
        | .ok (b, words) => return .ok (a && b, words)
      else return .ok (a, words)

def negated : Nat → Sign → List Octets → Task Reading
  | 0, _, _ => pure (.error "too long")
  | n + 1, first, words => do
    if first = .negation then
      let next := sign (words.drop 1)
      match ← negated n next (if next = .nothing then words else words.drop 1) with
      | .error e => return .error e
      | .ok (a, words) => return .ok (!a, words)
    else simple n first words

def simple : Nat → Sign → List Octets → Task Reading
  | 0, _, _ => pure (.error "too long")
  | n + 1, first, words => do
    match first, words with
    | .nothing, words => return .ok (false, words)
    | .opening, _ :: rest =>
      if sign rest = .closing then return .ok (false, rest)
      else match ← disjunction n (sign rest) rest with
        | .error e => return .error e
        | .ok (a, words) =>
          if sign (words.drop 1) = .closing then return .ok (a, words.drop 1)
          else return .error "closing paren expected"
    | .unary, op :: operand :: rest =>
      match ← unary op operand with
      | .error e => return .error e
      | .ok a => return .ok (a, operand :: rest)
    | _, a :: op :: rest =>
      if sign (op :: rest) = .binary then
        match rest with
        | [] => return .error (about op "argument expected")
        | b :: _ =>
          match ← binary a op b with
          | .error e => return .error e
          | .ok r => return .ok (r, rest)
      else return .ok (!a.isEmpty, words)
    | _, [a] => return .ok (!a.isEmpty, [a])
    | _, [] => return .ok (false, [])

end

/-- The truth of some words that are read with a sign for the first one, or its opposite. Words
that are left over make it a wrong condition. -/
def truthFrom (turned : Bool) (first : Sign) (words : List Octets) :
    Task (Except Complaint Bool) := do
  match ← disjunction (8 * words.length + 8) first words with
  | .error e => return .error e
  | .ok (_, w :: _ :: _) => return .error (about w "unexpected operator")
  | .ok (r, _) => return .ok (r != turned)

/-- The truth of a whole condition. Three and four words have rules of their own: an operator in
the middle comes first, then brackets around, then a negation. Two negations that are found this
way count as one. -/
def truth (turned : Bool) : Nat → List Octets → Task (Except Complaint Bool)
  | 0, words => truthFrom turned (sign words) words
  | n + 1, words => do
    let three := words.length = 3
    let special := three || words.length = 4
    if words.isEmpty then return .ok false
    else if three && isBinary (words.getD 1 []) then truthFrom turned .operand words
    else if special && words.head? = some ['('] && words.getLast? = some [')'] then
      let words := (words.drop 1).dropLast
      truthFrom turned (sign words) words
    else if special && words.head? = some ['!'] then truth true n (words.drop 1)
    else truthFrom turned (sign words) words

/-- The exit code of a condition, and what is wrong with it. The condition of a bracket ends with
its closing bracket. -/
def code (bracket : Bool) (words : List Octets) : Task (Nat × Option Complaint) := do
  if bracket && words.getLast? ≠ some [']'] then return (2, some "missing ]")
  match ← truth false 4 (if bracket then words.dropLast else words) with
  | .ok true => return (0, none)
  | .ok false => return (1, none)
  | .error e => return (2, some e)

end Condition

end Worksheet.Host
