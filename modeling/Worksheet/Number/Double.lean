-- Binary floating-point numbers of 64 bits, as values: a sign, a whole mantissa below 2^53 and
-- a power of two. Every result is the double nearest to the exact one, ties to even.
namespace Worksheet

/-! ## The type -/

/-- The finite doubles, each in one form: the mantissa has its top bit set unless the exponent
is the least one. -/
def CanonicalDouble (mantissa : Nat) (exponent : Int) : Prop :=
  mantissa < Nat.pow 2 53 ∧ -1074 ≤ exponent ∧ exponent ≤ 971 ∧
    (Nat.pow 2 52 ≤ mantissa ∨ exponent = -1074)

instance (m : Nat) (e : Int) : Decidable (CanonicalDouble m e) :=
  inferInstanceAs (Decidable (_ ∧ _))

inductive Double
  | finite (negative : Bool) (mantissa : Nat) (exponent : Int)
      (canonical : CanonicalDouble mantissa exponent)
  | infinite (negative : Bool)
  | nan
  deriving DecidableEq

namespace Double

def zero (negative : Bool) : Double := .finite negative 0 (-1074) (by decide)

instance : Inhabited Double := ⟨zero false⟩

/-! ## Rounding -/

/-- The fraction `num / den` in units of `2 ^ e`, as a fraction again. -/
def inUnits (num den : Nat) (e : Int) : Nat × Nat :=
  if 0 ≤ e then (num, den * Nat.pow 2 e.toNat) else (num * Nat.pow 2 (-e).toNat, den)

/-- The nearest whole number to a fraction; a tie goes to the even one. -/
def nearest (num den : Nat) : Nat :=
  let q := num / den
  let r := num % den
  if 2 * r < den then q
  else if den < 2 * r then q + 1
  else if q % 2 = 0 then q else q + 1

/-- The power of two of the unit in which `num / den` has 53 bits, or the least one. -/
def unitExponent (num den : Nat) : Int :=
  let guess : Int := (num.log2 : Int) - (den.log2 : Int) - 52
  let (n, d) := inUnits num den guess
  let e := if n / d < Nat.pow 2 52 then guess - 1
    else if Nat.pow 2 53 ≤ n / d then guess + 1 else guess
  max e (-1074)

/-- A whole number of units as a double; a carry into the 54th bit moves the unit. -/
def ofUnits (negative : Bool) (m : Nat) (e : Int) : Double :=
  if h : CanonicalDouble m e then .finite negative m e h
  else if h : CanonicalDouble (m / 2) (e + 1) then .finite negative (m / 2) (e + 1) h
  else .infinite negative

/-- The double nearest to a fraction. -/
def ofFraction (negative : Bool) (num den : Nat) : Double :=
  if num = 0 then zero negative
  else
    let e := unitExponent num den
    let (n, d) := inUnits num den e
    ofUnits negative (nearest n d) e

def ofRat (q : Rat) : Double := ofFraction (q < 0) q.num.natAbs q.den

def ofInt (n : Int) : Double := ofFraction (n < 0) n.natAbs 1

/-! ## Values -/

def toRat? : Double → Option Rat
  | .finite negative m e _ =>
    let (num, den) := if 0 ≤ e then (m * Nat.pow 2 e.toNat, 1) else (m, Nat.pow 2 (-e).toNat)
    some (mkRat (if negative then -(num : Int) else num) den)
  | _ => none

def isNegative : Double → Bool
  | .finite negative _ _ _ => negative
  | .infinite negative => negative
  | .nan => false

def isZero : Double → Bool
  | .finite _ m _ _ => m == 0
  | _ => false

/-- Above zero; a value that is no number is not. -/
def isPositive (x : Double) : Bool :=
  !x.isNegative && !x.isZero && x != .nan

end Double

/-! ## Sums -/

/-- The sum of whole numbers. -/
def total : List Nat → Nat
  | [] => 0
  | n :: rest => n + total rest

end Worksheet
