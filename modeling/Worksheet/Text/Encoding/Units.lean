-- Encodings with units of sixteen and thirty-two bits. Where no order of the bytes is stated, the
-- text begins with a mark, and is little-endian without one.
import Worksheet.Text.Utf8

namespace Worksheet.Text

inductive ByteOrder
  | little
  | big
  deriving DecidableEq, Repr

namespace Units

/-! ## Sixteen-bit units -/

def unit16 (order : ByteOrder) (a b : UInt8) : Nat :=
  match order with
  | .little => a.toNat + 256 * b.toNat
  | .big => 256 * a.toNat + b.toNat

def isHigh (n : Nat) : Bool := 0xD800 ≤ n && n < 0xDC00

def isLow (n : Nat) : Bool := 0xDC00 ≤ n && n < 0xE000

/-- The code point that a high unit and a low one stand for. -/
def paired (high low : Nat) : Nat := 0x10000 + (high - 0xD800) * 1024 + (low - 0xDC00)

/-- A high unit and a low one make a character. A unit without its partner is replaced, and
what is left of a character at the end of the data is replaced as a whole. -/
def decode16After (order : ByteOrder) (found : List Char) : Bytes → List Char
  | [] => found.reverse
  | [_] => (Utf8.replacement :: found).reverse
  | a :: b :: rest =>
    let u := unit16 order a b
    if isHigh u then
      match rest with
      | c :: d :: rest' =>
        let v := unit16 order c d
        if isLow v then decode16After order (Char.ofNat (paired u v) :: found) rest'
        else decode16After order (Utf8.replacement :: found) (c :: d :: rest')
      | _ => (Utf8.replacement :: found).reverse
    else if isLow u then decode16After order (Utf8.replacement :: found) rest
    else decode16After order (Char.ofNat u :: found) rest

/-! ## Thirty-two-bit units -/

def unit32 (order : ByteOrder) (a b c d : UInt8) : Nat :=
  match order with
  | .little => unit16 order a b + 65536 * unit16 order c d
  | .big => 65536 * unit16 order a b + unit16 order c d

/-- The code point of a number. A number that is too large is replaced. -/
def pointOf (n : Nat) : CodePoint := (CodePoint.ofNat? n).getD (.ofChar Utf8.replacement)

/-- The character of a code point, where there is one. -/
def charOf (n : Nat) : Char :=
  if n < 0xD800 || (0xE000 ≤ n && n < 0x110000) then Char.ofNat n else Utf8.replacement

def decode32After (order : ByteOrder) (found : List Char) : Bytes → List Char
  | a :: b :: c :: d :: rest =>
    decode32After order (charOf (unit32 order a b c d) :: found) rest
  | [] => found.reverse
  | _ => (Utf8.replacement :: found).reverse

/-! ## Marks -/

/-- A byte order mark decides the order and is dropped. -/
def order16 : Bytes → ByteOrder × Bytes
  | 0xFF :: 0xFE :: rest => (.little, rest)
  | 0xFE :: 0xFF :: rest => (.big, rest)
  | bytes => (.little, bytes)

def order32 : Bytes → ByteOrder × Bytes
  | 0xFF :: 0xFE :: 0 :: 0 :: rest => (.little, rest)
  | 0 :: 0 :: 0xFE :: 0xFF :: rest => (.big, rest)
  | bytes => (.little, bytes)

def decode16 (order : Option ByteOrder) (bytes : Bytes) : List Char :=
  match order with
  | some o => decode16After o [] bytes
  | none => decode16After (order16 bytes).1 [] (order16 bytes).2

def decode32 (order : Option ByteOrder) (bytes : Bytes) : List Char :=
  match order with
  | some o => decode32After o [] bytes
  | none => decode32After (order32 bytes).1 [] (order32 bytes).2

end Units

end Worksheet.Text
