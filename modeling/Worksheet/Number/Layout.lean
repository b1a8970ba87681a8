-- The text of a double: the fewest digits that read back, or a fixed number of them, laid out
-- with a point or with an exponent.
import Worksheet.Number.Numeral

namespace Worksheet

/-! ## Choosing digits -/

/-- Digits after a point at the front: the value is `0.d₁d₂… * 10 ^ point`. -/
structure DecimalDigits where
  digits : List Char
  point : Int
  deriving DecidableEq, Repr

namespace DecimalDigits

/-- The digits of `coefficient * 10 ^ exponent`, without zeros at the end. -/
def ofNumeral (coefficient : Nat) (exponent : Int) : DecimalDigits :=
  let ds := Nat.toDigits 10 coefficient
  ⟨(ds.reverse.dropWhile (· == '0')).reverse, exponent + ds.length⟩

end DecimalDigits

namespace Double

/-- A positive double as an exact fraction. -/
def fraction (m : Nat) (e : Int) : Nat × Nat :=
  if 0 ≤ e then (m * Nat.pow 2 e.toNat, 1) else (m, Nat.pow 2 (-e).toNat)

/-- The power of ten just above a positive fraction, or equal to ten times it. -/
def decimalPoint (num den : Nat) : Int :=
  if den ≤ num then Numeral.digitCount (num / den)
  else -(Numeral.digitCount ((den + num - 1) / num - 1) : Int) + 1

/-- A fraction in units of `10 ^ p`, as a fraction again. -/
def inDecimals (num den : Nat) (p : Int) : Nat × Nat :=
  if 0 ≤ p then (num, den * Nat.pow 10 p.toNat) else (num * Nat.pow 10 (-p).toNat, den)

def readsBack (x : Double) (coefficient : Nat) (exponent : Int) : Bool :=
  (Numeral.mk x.isNegative coefficient exponent).toDouble == x

/-- The neighbours of a fraction on the grid of `n` digits, the nearer first. -/
def neighbours (num den n : Nat) : Int × Nat × Nat :=
  let p := decimalPoint num den - n
  let (a, b) := inDecimals num den p
  let q := a / b
  let near := nearest a b
  (p, near, if near = q then q + 1 else q)

/-- The first of the given digit counts with a neighbour that reads back. -/
def fewestDigits (x : Double) (num den : Nat) : List Nat → Option (Nat × Int)
  | [] => none
  | n :: more =>
    let (p, near, far) := neighbours num den n
    if x.readsBack near p then some (near, p)
    else if x.readsBack far p then some (far, p)
    else fewestDigits x num den more

/-- All digits of a double, as a numeral without sign. -/
def exactNumeral (m : Nat) (e : Int) : Nat × Int :=
  if 0 ≤ e then (m * Nat.pow 2 e.toNat, 0) else (m * Nat.pow 5 (-e).toNat, e)

/-- The fewest digits that read back; seventeen are always enough. -/
def shortest (x : Double) (m : Nat) (e : Int) : DecimalDigits :=
  let (num, den) := fraction m e
  let (c, p) := (fewestDigits x num den (List.range' 1 17)).getD (exactNumeral m e)
  .ofNumeral c p

/-- The nearest numeral of `n` digits; a tie goes to the even one. -/
def rounded (n : Nat) (m : Nat) (e : Int) : DecimalDigits :=
  let (num, den) := fraction m e
  let (p, near, _) := neighbours num den n
  .ofNumeral near p

end Double

/-! ## Laying digits out -/

/-- Where the point is written positionally, and how an exponent is written elsewhere. -/
structure NumberLayout where
  /-- The point is written positionally above this place, -/
  low : Int
  /-- and up to this one. -/
  high : Int
  /-- A whole number written positionally keeps a point and a zero. -/
  keepsPoint : Bool
  /-- The least number of digits of an exponent. -/
  exponentWidth : Nat

namespace NumberLayout

def digitsOf (n : Nat) : List Char := Nat.toDigits 10 n

def zeros (n : Nat) : List Char := List.replicate n '0'

def exponentText (width : Nat) (e : Int) : List Char :=
  let ds := digitsOf e.natAbs
  (if e < 0 then '-' else '+') :: (zeros (width - ds.length) ++ ds)

def positional (l : NumberLayout) (d : DecimalDigits) : List Char :=
  if d.point ≤ 0 then '0' :: '.' :: zeros (-d.point).toNat ++ d.digits
  else
    let n := d.point.toNat
    if d.digits.length ≤ n then
      d.digits ++ zeros (n - d.digits.length) ++ (if l.keepsPoint then ['.', '0'] else [])
    else d.digits.take n ++ '.' :: d.digits.drop n

def scientific (l : NumberLayout) (d : DecimalDigits) : List Char :=
  (match d.digits with
   | [] => ['0']
   | [c] => [c]
   | c :: rest => c :: '.' :: rest) ++ 'e' :: exponentText l.exponentWidth (d.point - 1)

def layOut (l : NumberLayout) (d : DecimalDigits) : List Char :=
  if l.low < d.point && d.point ≤ l.high then l.positional d else l.scientific d

/-- Writes a double with the digits that `choose` gives for a positive one. -/
def write (l : NumberLayout) (choose : Double → Nat → Int → DecimalDigits) (x : Double) :
    List Char :=
  match x with
  | .nan => ['n', 'a', 'n']
  | .infinite negative => (if negative then ['-'] else []) ++ ['i', 'n', 'f']
  | .finite negative m e _ =>
    (if negative then ['-'] else []) ++
      (if m = 0 then '0' :: (if l.keepsPoint then ['.', '0'] else [])
       else l.layOut (choose x m e))

end NumberLayout

/-! ## The layouts in use -/

namespace Double

/-- A value on its own: positional from 0.0001 to below 10^16. -/
def fullLayout : NumberLayout := ⟨-4, 16, true, 2⟩

/-- A value in a configuration text: positional from 0.00001 to below 10^16. -/
def storedLayout : NumberLayout := ⟨-5, 16, true, 1⟩

/-- A duration in a message: positional from 0.0001 to below 10^6. -/
def briefLayout : NumberLayout := ⟨-4, 6, false, 2⟩

def text (x : Double) : String := String.ofList (fullLayout.write shortest x)

def storedText (x : Double) : String := String.ofList (storedLayout.write shortest x)

/-- Six significant digits. -/
def briefText (x : Double) : String := String.ofList (briefLayout.write (fun _ => rounded 6) x)

end Double

end Worksheet
