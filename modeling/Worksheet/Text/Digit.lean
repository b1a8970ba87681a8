-- Blank characters and trimming, decimal digits of every script, and whole numbers written with
-- them. Two classes of blanks are in use: the white space of Unicode, and the wider class that
-- counts the four information separators as blank too.
import Worksheet.Text.CodePoint

namespace Worksheet.Text

/-! ## The classes -/

/-- The Unicode property `White_Space`. -/
def whiteSpace : List CodeRange :=
  [(0x09, 0x0D), (0x20, 0x20), (0x85, 0x85), (0xA0, 0xA0), (0x1680, 0x1680), (0x2000, 0x200A),
    (0x2028, 0x2029), (0x202F, 0x202F), (0x205F, 0x205F), (0x3000, 0x3000)]

def isSpace (c : Char) : Bool := inRanges whiteSpace c

/-- White space, or one of the separators U+001C to U+001F. -/
def isBlank (c : Char) : Bool := isSpace c || inRanges [(0x1C, 0x1F)] c

/-! ## Trimming -/

/-- Drops the characters of a class from both ends. -/
def trim (p : Char → Bool) (cs : List Char) : List Char :=
  ((cs.dropWhile p).reverse.dropWhile p).reverse

def trimBlank (cs : List Char) : List Char := trim isBlank cs

/-! ## Digits -/

/-- The zeros of the decimal digit runs of Unicode 14; each run has ten digits in order. -/
def digitZeros : List Nat :=
  [0x30, 0x660, 0x6F0, 0x7C0, 0x966, 0x9E6, 0xA66, 0xAE6, 0xB66, 0xBE6, 0xC66, 0xCE6, 0xD66,
    0xDE6, 0xE50, 0xED0, 0xF20, 0x1040, 0x1090, 0x17E0, 0x1810, 0x1946, 0x19D0, 0x1A80, 0x1A90,
    0x1B50, 0x1BB0, 0x1C40, 0x1C50, 0xA620, 0xA8D0, 0xA900, 0xA9D0, 0xA9F0, 0xAA50, 0xABF0,
    0xFF10, 0x104A0, 0x10D30, 0x11066, 0x110F0, 0x11136, 0x111D0, 0x112F0, 0x11450, 0x114D0,
    0x11650, 0x116C0, 0x11730, 0x118E0, 0x11950, 0x11C50, 0x11D50, 0x11DA0, 0x16A60, 0x16AC0,
    0x16B50, 0x1D7CE, 0x1D7D8, 0x1D7E2, 0x1D7EC, 0x1D7F6, 0x1E140, 0x1E2F0, 0x1E950, 0x1FBF0]

/-- The value of a decimal digit. -/
def digit? (c : Char) : Option Nat :=
  (digitZeros.find? fun z => z ≤ c.toNat && c.toNat < z + 10).map (c.toNat - ·)

def isDigit (c : Char) : Bool := (digit? c).isSome

/-- The value of digits read in base ten; a character that is no digit counts as zero. -/
def digitsValue (cs : List Char) : Nat :=
  cs.foldl (fun n c => 10 * n + (digit? c).getD 0) 0

/-! ## Digit groups -/

/-- Digits with single low lines between them. The flag says whether the last character read
was a digit; the result holds the digits without the low lines. -/
def ungroup : Bool → List Char → Option (List Char)
  | wasDigit, [] => if wasDigit then some [] else none
  | wasDigit, c :: rest =>
    if c = '_' then (if wasDigit then ungroup false rest else none)
    else if isDigit c then (ungroup true rest).map (c :: ·)
    else none

/-! ## Whole numbers -/

/-- Digits of one number beyond which it is not read. -/
def maxDigits : Nat := 4300

inductive WholeFault
  | malformed
  | tooLong (digits : Nat)
  deriving DecidableEq, Repr

/-- The blanks that may surround a number: the separators U+001C to U+001F do not count. -/
def trimNumber (cs : List Char) : List Char := trim isSpace cs

def readDigits (cs : List Char) : Except WholeFault Nat :=
  match ungroup false cs with
  | none => .error .malformed
  | some ds => if ds.length > maxDigits then .error (.tooLong ds.length) else .ok (digitsValue ds)

/-- Blanks, a sign, and digits of any script that may be grouped by single low lines. -/
def readWhole (cs : List Char) : Except WholeFault Int :=
  match trimNumber cs with
  | '-' :: rest => (readDigits rest).map fun n => -Int.ofNat n
  | '+' :: rest => (readDigits rest).map Int.ofNat
  | rest => (readDigits rest).map Int.ofNat

end Worksheet.Text
