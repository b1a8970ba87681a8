-- Text as code points. A source, the output of a program and the name of a file may hold
-- surrogates, which no `Char` can be; every other text of the library is a `String`. Classes of
-- characters are given as ranges of code points.
namespace Worksheet.Text

abbrev CodePoint := Fin 0x110000

namespace CodePoint

def ofChar (c : Char) : CodePoint :=
  ⟨c.toNat, by
    rcases c.valid with h | h
    · exact Nat.lt_trans h (by decide)
    · exact h.2⟩

/-- The code point of a number; one that is too large has none. -/
def ofNat? (n : Nat) : Option CodePoint := if h : n < 0x110000 then some ⟨n, h⟩ else none

def isSurrogate (p : CodePoint) : Bool := 0xD800 ≤ p.val && p.val ≤ 0xDFFF

theorem isSurrogate_ofChar (c : Char) : (ofChar c).isSurrogate = false := by
  have h : c.toNat < 0xD800 ∨ 0xDFFF < c.toNat := c.valid.imp_right And.left
  grind [isSurrogate, ofChar]

/-- The character of a code point that is no surrogate. -/
def toChar? (p : CodePoint) : Option Char :=
  if p.isSurrogate then none else some (Char.ofNat p.val)

end CodePoint

/-- A text that may hold surrogates. -/
abbrev Points := List CodePoint

namespace Points

/-- A text is not behind another one in the order of code points. -/
def precedes : Points → Points → Bool
  | [], _ => true
  | _ :: _, [] => false
  | a :: s, b :: t => if a.val < b.val then true else if b.val < a.val then false else precedes s t

def ofChars (cs : List Char) : Points := cs.map CodePoint.ofChar

def ofString (s : String) : Points := ofChars s.toList

/-- The same text as a string, if it holds no surrogate. -/
def toString? (points : Points) : Option String :=
  (points.mapM CodePoint.toChar?).map String.ofList

/-- The text as a string, with a replacement character for each surrogate. -/
def spelled (points : Points) : String :=
  String.ofList (points.map fun p => p.toChar?.getD (Char.ofNat 0xFFFD))

end Points

/-! ## Classes of characters -/

/-- A range of code points, both ends included. -/
abbrev CodeRange := Nat × Nat

/-- A class is the union of its ranges. -/
def inRanges (ranges : List CodeRange) (c : Char) : Bool :=
  ranges.any fun r => r.1 ≤ c.toNat && c.toNat ≤ r.2

end Worksheet.Text
