-- Encodings of Chinese text.
import Worksheet.Text.Encoding.Big5
import Worksheet.Text.Encoding.Gb
import Worksheet.Text.Encoding.Stepwise

namespace Worksheet.Text.Chinese

open CharacterSet

/-! ## Simplified script -/

/-- The character of two bytes with their highest bit set. -/
def gb2312Char? (first second : Nat) : Option Char :=
  if 0x80 ≤ first && 0x80 ≤ second then gb2312.char? (first - 0x80) (second - 0x80) else none

def gbkChar? (first second : Nat) : Option Char :=
  (gbk.char? first second).orElse fun _ => gb2312Char? first second

/-- The characters of private use in the two bytes of GB 18030. -/
def privateChar? (first second : Nat) : Option Char :=
  if 0xAA ≤ first && first ≤ 0xAF && 0xA1 ≤ second && second ≤ 0xFE then
    some (Char.ofNat (0xE000 + 94 * (first - 0xAA) + (second - 0xA1)))
  else if 0xF8 ≤ first && first ≤ 0xFE && 0xA1 ≤ second && second ≤ 0xFE then
    some (Char.ofNat (0xE234 + 94 * (first - 0xF8) + (second - 0xA1)))
  else if 0xA1 ≤ first && first ≤ 0xA7 && 0x40 ≤ second && second ≤ 0xA0 && second ≠ 0x7F then
    some (Char.ofNat (0xE4C6 + 96 * (first - 0xA1) +
      (if second < 0x7F then second - 0x40 else second - 0x41)))
  else none

def gb18030Char? (first second : Nat) : Option Char :=
  (gbkChar? first second).orElse fun _ =>
    (gb18030.char? first second).orElse fun _ => privateChar? first second

/-- The character with a number in the basic plane, among those that take four bytes. -/
def inRuns (n : Nat) : List (Nat × Nat) → Option Char
  | [] => none
  | (number, point) :: rest =>
    match rest with
    | (next, _) :: _ => if n < next then some (Char.ofNat (point + (n - number))) else inRuns n rest
    | [] => some (Char.ofNat (point + (n - number)))

/-- The character of four bytes: the number that they spell is in the basic plane or above it. -/
def fourBytes? (a b c d : Nat) : Option Char :=
  if a < 0x81 || 0xFE < a || c < 0x81 || 0xFE < c || d < 0x30 || 0x39 < d then none
  else
    let number (lead : Nat) := ((lead * 10 + (b - 0x30)) * 126 + (c - 0x81)) * 10 + (d - 0x30)
    if a < 0x85 then
      let n := number (a - 0x81)
      if n < 39420 then inRuns n gb18030Runs else none
    else if 0x90 ≤ a then
      let point := 0x10000 + number (a - 0x90)
      if point < 0x110000 then some (Char.ofNat point) else none
    else none

/-- A digit in the second place begins the second half of four bytes. -/
def gb18030Step (a : UInt8) : Bytes → Step
  | [] => .cut
  | b :: rest =>
    if 0x30 ≤ b.toNat && b.toNat ≤ 0x39 then
      match rest with
      | c :: d :: _ => .ofChar? 4 (fourBytes? a.toNat b.toNat c.toNat d.toNat)
      | _ => .cut
    else .ofChar? 2 (gb18030Char? a.toNat b.toNat)

/-- Characters in seven bits: a tilde begins a sign that goes over to the other set of characters
and back. -/
def sevenBitStep (inSet : Bool) (b : UInt8) (rest : Bytes) : Bool × Step :=
  if b = 0x7E then
    match rest with
    | [] => (inSet, .cut)
    | c :: _ =>
      match inSet, c with
      | false, 0x7E => (false, .found 2 ['~'])
      | false, 0x7B => (true, .found 2 [])
      | false, 0x0A => (false, .found 2 [])
      | true, 0x7D => (false, .found 2 [])
      | _, _ => (inSet, .wrong 1)
  else if 0x80 ≤ b.toNat then (inSet, .wrong 1)
  else if !inSet then (false, .byte b)
  else (true, Stepper.pairOf gb2312.char? b rest)

/-! ## Traditional script -/

def vendorChar? (first second : Nat) : Option Char :=
  (cp950.char? first second).orElse fun _ => big5.char? first second

/-- A letter with a second mark beside the one that it has. -/
def hkscsPairs : List (Nat × List Char) :=
  [(0x8862, ['\u00ca', '\u0304']), (0x8864, ['\u00ca', '\u030c']),
    (0x88A3, ['\u00ea', '\u0304']), (0x88A5, ['\u00ea', '\u030c'])]

/-- Rows C6 (from A1 on), C7 and C8 are those of the supplement alone. -/
def hkscsContent? (first second : Nat) : Option (List Char) :=
  let isOwn := (first = 0xC6 && 0xA1 ≤ second) || first = 0xC7 || first = 0xC8
  let common := if isOwn then none else big5.char? first second
  match common.orElse fun _ => hkscs.char? first second with
  | some c => some [c]
  | none => if second < 0x100 then hkscsPairs.lookup (0x100 * first + second) else none

def hkscsStep (b : UInt8) : Bytes → Step
  | [] => .cut
  | c :: _ =>
    match hkscsContent? b.toNat c.toNat with
    | some content => .found 2 content
    | none => .wrong 1

/-! ## Readers -/

def readGb2312 (bytes : Bytes) : List Char := Stepper.beyondAscii (Stepper.pairOf gb2312Char?) bytes

def readGbk (bytes : Bytes) : List Char := Stepper.beyondAscii (Stepper.pairOf gbkChar?) bytes

def readGb18030 (bytes : Bytes) : List Char := Stepper.beyondAscii gb18030Step bytes

def readSevenBit (bytes : Bytes) : List Char := Stepper.read sevenBitStep false bytes

def readBig5 (bytes : Bytes) : List Char := Stepper.beyondAscii (Stepper.pairOf big5.char?) bytes

def readVendor (bytes : Bytes) : List Char := Stepper.beyondAscii (Stepper.pairOf vendorChar?) bytes

def readHkscs (bytes : Bytes) : List Char := Stepper.beyondAscii hkscsStep bytes

end Worksheet.Text.Chinese
