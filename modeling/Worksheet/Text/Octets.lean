-- Texts of octets: one character for each byte, with the byte as its code. Programs of the system
-- work on these, whatever the encoding of their input. The name of a file is such a text too, and
-- it has a text of code points, in which those of its octets that are no UTF-8 are surrogates.
import Worksheet.Text.Utf8

namespace Worksheet.Text

abbrev Octets := List Char

namespace Octets

def ofBytes (bytes : Bytes) : Octets := bytes.map fun b => Char.ofNat b.toNat

def toBytes (text : Octets) : Bytes := text.map fun c => UInt8.ofNat c.toNat

def ofString (s : String) : Octets := ofBytes (Utf8.encodeString s)

/-- The text that the octets spell in UTF-8. -/
def spelled (text : Octets) : String := String.ofList (Utf8.decodeLossy (toBytes text))

def ofNat (n : Nat) : Octets := (toString n).toList

def ofInt (n : Int) : Octets := (toString n).toList

end Octets

/-! ## Names of files -/

namespace FileName

/-- The surrogate that stands for an octet above U+007F. -/
def strayPoint (b : UInt8) : CodePoint := Fin.ofNat _ (0xDC00 + b.toNat)

/-- The text of one piece of a name, with the bytes from its start on. -/
def piecePoints (p : Utf8.Piece) (bytes : Bytes) : Points :=
  match p.content with
  | .ok c => [CodePoint.ofChar c]
  | .error _ => (bytes.take p.width).map strayPoint

def pointsAfter (bytes : Bytes) : List Utf8.Piece → Points
  | [] => []
  | p :: rest => piecePoints p bytes ++ pointsAfter (bytes.drop p.width) rest

/-- The text of a name. -/
def points (name : Octets) : Points :=
  let bytes := Octets.toBytes name
  pointsAfter bytes (Utf8.pieces bytes)

/-- The octet that a surrogate stands for. -/
def strayOctet? (p : CodePoint) : Option Char :=
  if 0xDC80 ≤ p.val && p.val ≤ 0xDCFF then some (Char.ofNat (p.val - 0xDC00)) else none

/-- The name that a text is the text of. -/
def ofPoints (text : Points) : Octets :=
  text.flatMap fun p =>
    match strayOctet? p with
    | some c => [c]
    | none => Octets.ofBytes (Utf8.encodePoint p.val)

end FileName

end Worksheet.Text
