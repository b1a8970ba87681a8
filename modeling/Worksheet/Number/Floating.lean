-- Binary floating-point numbers of a given breadth, with what formats with a number of digits make
-- of them. A text is read as the number nearest to it, and digits are exact but for the last one.
import Worksheet.Number.Double

namespace Worksheet

/-! ## The type -/

/-- How many bits a mantissa has, and between which powers of two its last bit lies. -/
structure Breadth where
  bits : Nat
  least : Int
  greatest : Int
  deriving DecidableEq, Repr

namespace Breadth

def double : Breadth := ⟨53, -1074, 971⟩

def extended : Breadth := ⟨64, -16445, 16320⟩

end Breadth

/-- A number is a whole mantissa times a power of two, with a sign, or lies outside of all such. -/
inductive Floating
  | finite (negative : Bool) (mantissa : Nat) (exponent : Int)
  | infinite (negative : Bool)
  | nan (negative : Bool)
  deriving DecidableEq, Repr

namespace Floating

def isNegative : Floating → Bool
  | finite negative _ _ => negative
  | infinite negative => negative
  | nan negative => negative

def negate : Floating → Floating
  | finite negative m e => .finite (!negative) m e
  | infinite negative => .infinite !negative
  | nan negative => .nan !negative

/-- The power of two of the unit in which a fraction has all bits, or the least one. -/
def unitOf (b : Breadth) (num den : Nat) : Int :=
  let guess : Int := (num.log2 : Int) - (den.log2 : Int) - (b.bits - 1 : Nat)
  let (n, d) := Double.inUnits num den guess
  let e := if n / d < Nat.pow 2 (b.bits - 1) then guess - 1
    else if Nat.pow 2 b.bits ≤ n / d then guess + 1 else guess
  max e b.least

/-- The number nearest to a fraction; a tie goes to the even one. -/
def ofFraction (b : Breadth) (negative : Bool) (num den : Nat) : Floating :=
  if num = 0 then .finite negative 0 b.least
  else
    let e := unitOf b num den
    let (n, d) := Double.inUnits num den e
    let m := Double.nearest n d
    let (m, e) := if m = Nat.pow 2 b.bits then (Nat.pow 2 (b.bits - 1), e + 1) else (m, e)
    if b.greatest < e then .infinite negative else .finite negative m e

def ofNat (b : Breadth) (n : Nat) : Floating := ofFraction b false n 1

/-- A finite number without its sign, as an exact fraction. -/
def fraction (m : Nat) (e : Int) : Nat × Nat :=
  if 0 ≤ e then (m * Nat.pow 2 e.toNat, 1) else (m, Nat.pow 2 (-e).toNat)

/-! ## Reading -/

/-- What comes of reading a number at the front of a text: the number, what follows it, and whether
it lies outside of what can be told. Where no number stands nothing is used up. -/
structure Read where
  value : Floating
  rest : List Char
  outside : Bool

def digitValue (c : Char) : Nat :=
  if c.isDigit then c.toNat - '0'.toNat
  else if 'a' ≤ c && c ≤ 'f' then c.toNat - 'a'.toNat + 10
  else if 'A' ≤ c && c ≤ 'F' then c.toNat - 'A'.toNat + 10
  else 99

def wholeOf (base : Nat) (digits : List Char) : Nat :=
  digits.foldl (fun n c => base * n + digitValue c) 0

/-- The exponent behind a letter, with what follows. A letter without digits behind is none. -/
def exponentAt (letter : Char) (text : List Char) : Int × List Char :=
  match text with
  | c :: rest =>
    if c.toLower = letter then
      let (negative, body) := match rest with
        | '-' :: r => (true, r)
        | '+' :: r => (false, r)
        | r => (false, r)
      let ds := body.takeWhile Char.isDigit
      if ds.isEmpty then (0, text)
      else
        let n := wholeOf 10 ds
        (if negative then -(n : Int) else n, body.drop ds.length)
    else (0, text)
  | [] => (0, [])

/-- A number whose digits and power are known. Powers that lie far outside are not computed. -/
def scaled (b : Breadth) (negative : Bool) (base coefficient : Nat) (power : Int) (count : Nat) :
    Floating × Bool :=
  if coefficient = 0 then (.finite negative 0 b.least, false)
  else if 20000 < power then (.infinite negative, true)
  else if power < -40000 - (8 * count : Nat) then (.finite negative 0 b.least, true)
  else
    let value := if 0 ≤ power then ofFraction b negative (coefficient * Nat.pow base power.toNat) 1
      else ofFraction b negative coefficient (Nat.pow base (-power).toNat)
    let outside := match value with
      | .finite _ m _ => m < Nat.pow 2 (b.bits - 1)
      | _ => true
    (value, outside)

/-- Digits with a point among them, and a power behind. -/
def numeralAt (b : Breadth) (negative hexadecimal : Bool) (text : List Char) : Option Read :=
  let base := if hexadecimal then 16 else 10
  let isDigit (c : Char) : Bool := digitValue c < base
  let whole := text.takeWhile isDigit
  let rest := text.drop whole.length
  let (part, rest') := match rest with
    | '.' :: r => (r.takeWhile isDigit, (r.dropWhile isDigit))
    | r => ([], r)
  if whole.isEmpty && part.isEmpty then none
  else
    let digits := whole ++ part
    let (power, rest') := exponentAt (if hexadecimal then 'p' else 'e') rest'
    let (value, outside) :=
      if hexadecimal then
        scaled b negative 2 (wholeOf 16 digits) (power - 4 * part.length) (4 * digits.length)
      else scaled b negative 10 (wholeOf 10 digits) (power - part.length) digits.length
    some ⟨value, rest', outside⟩

def startsWithWord (word : String) (text : List Char) : Bool :=
  (text.take word.length).map Char.toLower = word.toList

/-- What stands in brackets behind the word for no number. -/
def afterNan (text : List Char) : List Char :=
  match text with
  | '(' :: rest =>
    let inner := rest.takeWhile fun c => c.isAlphanum || c = '_'
    match rest.drop inner.length with
    | ')' :: rest => rest
    | _ => text
  | _ => text

/-- Reads a number behind white space and a sign. -/
def read (b : Breadth) (text : List Char) : Read :=
  let body := text.dropWhile fun c => c = ' ' || (9 ≤ c.toNat && c.toNat ≤ 13)
  let (negative, body) := match body with
    | '-' :: r => (true, r)
    | '+' :: r => (false, r)
    | r => (false, r)
  let decimal : Read := (numeralAt b negative false body).getD ⟨.finite false 0 b.least, text, false⟩
  if startsWithWord "infinity" body then ⟨.infinite negative, body.drop 8, false⟩
  else if startsWithWord "inf" body then ⟨.infinite negative, body.drop 3, false⟩
  else if startsWithWord "nan" body then ⟨.nan negative, afterNan (body.drop 3), false⟩
  else match body with
    | '0' :: x :: rest =>
      if x = 'x' || x = 'X' then (numeralAt b negative true rest).getD decimal else decimal
    | _ => decimal

/-! ## Digits -/

def zeros (n : Nat) : List Char := List.replicate n '0'

def decimalDigits (n : Nat) : List Char := Nat.toDigits 10 n

/-- Digits with a point before so many of them. -/
def pointed (places : Nat) (keepsPoint : Bool) (digits : List Char) : List Char :=
  let digits := zeros (places + 1 - digits.length) ++ digits
  let whole := digits.take (digits.length - places)
  if places = 0 then whole ++ (if keepsPoint then ['.'] else [])
  else whole ++ '.' :: digits.drop (digits.length - places)

/-- A fraction with so many digits after the point. -/
def fixed (places : Nat) (keepsPoint : Bool) (num den : Nat) : List Char :=
  pointed places keepsPoint (decimalDigits (Double.nearest (num * Nat.pow 10 places) den))

/-- The power of ten of the first digit of a positive fraction. -/
def leadingPower (num den : Nat) : Int :=
  let guess : Int := ((decimalDigits num).length : Int) - (decimalDigits den).length
  let below : Bool := if 0 ≤ guess then num < den * Nat.pow 10 guess.toNat
    else num * Nat.pow 10 (-guess).toNat < den
  if below then guess - 1 else guess

/-- The first digits of a fraction, so many behind the leading one, with the power of that one. -/
def leading (places : Nat) (num den : Nat) : List Char × Int :=
  if num = 0 then (zeros (places + 1), 0)
  else
    let power := leadingPower num den
    let shift := (places : Int) - power
    let n := if 0 ≤ shift then Double.nearest (num * Nat.pow 10 shift.toNat) den
      else Double.nearest num (den * Nat.pow 10 (-shift).toNat)
    let ds := decimalDigits n
    if places + 1 < ds.length then (ds.dropLast, power + 1) else (ds, power)

def powerText (letter : Char) (width : Nat) (power : Int) : List Char :=
  let ds := decimalDigits power.natAbs
  letter :: (if power < 0 then '-' else '+') :: zeros (width - ds.length) ++ ds

def withPower (places : Nat) (keepsPoint : Bool) (num den : Nat) : List Char :=
  let (ds, power) := leading places num den
  pointed places keepsPoint ds ++ powerText 'e' 2 power

/-- Digits after a point without zeros at the end. -/
def withoutZeros (text : List Char) : List Char :=
  if text.contains '.' then
    let short := (text.reverse.dropWhile (· = '0')).reverse
    if short.getLast? = some '.' then short.dropLast else short
  else text

/-- So many digits in all, with a power where the point would be far away. -/
def general (digits : Nat) (keepsZeros : Bool) (num den : Nat) : List Char :=
  let count := max digits 1
  let (ds, power) := leading (count - 1) num den
  let shorten (text : List Char) : List Char := if keepsZeros then text else withoutZeros text
  if power < -4 || (count : Int) ≤ power then
    shorten (pointed (count - 1) keepsZeros ds) ++ powerText 'e' 2 power
  else shorten (fixed ((count : Int) - 1 - power).toNat keepsZeros num den)

/-- How many bits stand before the point of a number that is written in base sixteen. -/
def headBits (b : Breadth) : Nat := if b.bits % 4 = 0 then 4 else b.bits % 4

/-- A number in base sixteen, with a power of two. Numbers without their top bit have no digit but
zero before the point where one bit stands there. -/
def hexadecimal (b : Breadth) (places : Option Nat) (keepsPoint : Bool) (m : Nat) (e : Int) :
    List Char :=
  let tail := b.bits - headBits b
  let power : Int := if m = 0 then 0 else e + tail
  let full := tail / 4
  let (n, count) := match places with
    | some p =>
      if p < full then (Double.nearest m (Nat.pow 16 (full - p)), p)
      else (m * Nat.pow 16 (p - full), p)
    | none =>
      let ds := (Nat.toDigits 16 (m % Nat.pow 2 tail)).reverse
      let ds := ds ++ zeros (full - ds.length)
      let kept := (ds.dropWhile (· = '0')).length
      (m / Nat.pow 16 (full - kept), kept)
  '0' :: 'x' :: pointed count keepsPoint (Nat.toDigits 16 n) ++ powerText 'p' 1 power

/-- The form in which a number is written. -/
inductive Form
  | fixed
  | power
  | general
  | hexadecimal
  deriving DecidableEq, Repr

/-- The usual number of digits. -/
def usualPlaces : Nat := 6

/-- A number without its sign; the flag asks for a point and zeros that need not be written. -/
def digitsIn (b : Breadth) (form : Form) (places : Option Nat) (full : Bool) : Floating → List Char
  | .infinite _ => ['i', 'n', 'f']
  | .nan _ => ['n', 'a', 'n']
  | .finite _ m e =>
    let (num, den) := Floating.fraction m e
    match form with
    | .fixed => Floating.fixed (places.getD usualPlaces) full num den
    | .power => withPower (places.getD usualPlaces) full num den
    | .general => Floating.general (places.getD usualPlaces) full num den
    | .hexadecimal => Floating.hexadecimal b places full m e

def isFinite : Floating → Bool
  | .finite .. => true
  | _ => false

end Floating

end Worksheet
