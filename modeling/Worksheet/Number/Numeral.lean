-- Numerals: decimal fractions with a power of ten, as text writes them. A numeral is read as
-- the double nearest to it.
import Worksheet.Number.Double
import Worksheet.Text.Digit

namespace Worksheet

/-- The number `coefficient * 10 ^ exponent`, with a sign. -/
structure Numeral where
  negative : Bool
  coefficient : Nat
  exponent : Int
  deriving DecidableEq, Repr

namespace Numeral

/-- The number of decimal digits of a whole number; zero has none. -/
def digitCount (n : Nat) : Nat := if n = 0 then 0 else (Nat.toDigits 10 n).length

/-- Numerals beyond 10^400 and below 10^-400 lie outside the doubles, so their powers of ten
are not computed. -/
def toDouble (x : Numeral) : Double :=
  let top : Int := x.exponent + digitCount x.coefficient
  if x.coefficient = 0 then .zero x.negative
  else if 400 < top then .infinite x.negative
  else if top < -400 then .zero x.negative
  else if 0 ≤ x.exponent then .ofFraction x.negative (x.coefficient * Nat.pow 10 x.exponent.toNat) 1
  else .ofFraction x.negative x.coefficient (Nat.pow 10 (-x.exponent).toNat)

end Numeral

/-! ## Reading -/

namespace NumberText

open Text

def takeSign : List Char → Bool × List Char
  | '-' :: rest => (true, rest)
  | '+' :: rest => (false, rest)
  | rest => (false, rest)

def isDecimal (c : Char) : Bool := c.isDigit

/-- The exponent part of a numeral: nothing, or `e` with a sign and at least one digit. -/
def readExponent : List Char → Option Int
  | [] => some 0
  | c :: rest =>
    if c = 'e' || c = 'E' then
      let (negative, ds) := takeSign rest
      if ds ≠ [] && ds.all isDecimal then
        some (if negative then -(digitsValue ds : Int) else digitsValue ds)
      else none
    else none

/-- Digits with at most one point among them, at least one digit, and an exponent. -/
def readUnsigned (negative : Bool) (cs : List Char) : Option Numeral :=
  let whole := cs.takeWhile isDecimal
  let rest := cs.dropWhile isDecimal
  let (part, tail) := match rest with
    | '.' :: rest' => (rest'.takeWhile isDecimal, rest'.dropWhile isDecimal)
    | _ => ([], rest)
  if whole.isEmpty && part.isEmpty then none
  else
    (readExponent tail).map fun e =>
      ⟨negative, digitsValue (whole ++ part), e - part.length⟩

def lower (cs : List Char) : String := String.ofList (cs.map Char.toLower)

/-- A plain number: a sign, then a numeral, or a word for an infinity or for no number. -/
def readPlain (cs : List Char) : Option Double :=
  let (negative, rest) := takeSign cs
  if lower rest = "inf" || lower rest = "infinity" then some (.infinite negative)
  else if lower rest = "nan" then some .nan
  else (readUnsigned negative rest).map Numeral.toDouble

/-! ## Grouped digits -/

/-- Low lines are dropped where a digit stands on both sides, and refused elsewhere. The flags
say whether a digit, or a low line, came just before. -/
def dropLowLines : (digit low : Bool) → List Char → Option (List Char)
  | _, low, [] => if low then none else some []
  | digit, low, c :: rest =>
    if c = '_' then (if digit then dropLowLines false true rest else none)
    else if low && !isDecimal c then none
    else (dropLowLines (isDecimal c) false rest).map (c :: ·)

/-- A digit of any script as an ASCII digit. -/
def asciiDigit (c : Char) : Char :=
  match digit? c with
  | some d => Char.ofNat (0x30 + d)
  | none => c

/-- A number with blanks around it, digits of any script, and low lines between digits. -/
def readGrouped (cs : List Char) : Option Double :=
  (dropLowLines false false ((trimNumber cs).map asciiDigit)).bind readPlain

/-- No low line stands at an end or next to another. -/
def singleLowLines (cs : List Char) : Bool :=
  cs.head? != some '_' && cs.getLast? != some '_' &&
    !(cs.zip cs.tail).contains ('_', '_')

/-- A number with white space around it; one without white space may hold single low lines
anywhere inside. -/
def readLoose (cs : List Char) : Option Double :=
  match readPlain (trim isSpace cs) with
  | some x => some x
  | none => if singleLowLines cs then readPlain (cs.filter (· ≠ '_')) else none

end NumberText

end Worksheet
