-- The encodings of East Asian text. Those in seven bits go from one set of characters to another by
-- escapes; a set is called by the sign that ends its escape.
import Worksheet.Text.Encoding.Chinese
import Worksheet.Text.Encoding.Japanese
import Worksheet.Text.Encoding.Korean
import Worksheet.Text.Encoding.SingleByte

namespace Worksheet.Text.Shifting

open CharacterSet

/-! ## Sets -/

/-- A set of characters: whether each one takes two bytes, and the sign that ends its escape. -/
structure Mark where
  wide : Bool
  sign : Char
  deriving DecidableEq, Repr

def ascii : Mark := ⟨false, 'B'⟩

/-- The ASCII of Japan has a yen sign and an overline. -/
def romanChar? (n : Nat) : Option Char :=
  if n = 0x5C then some '\u00a5'
  else if n = 0x7E then some '\u203e'
  else if n < 0x80 then some (Char.ofNat n)
  else none

def kanaChar? (n : Nat) : Option Char :=
  if 0x21 ≤ n && n ≤ 0x5F then some (Char.ofNat (0xFF40 + n)) else none

/-- The characters that one or two bytes stand for in a set. -/
def content? (m : Mark) (first second : Nat) : Option (List Char) :=
  let single (c : Option Char) : Option (List Char) := c.map fun c => [c]
  match m.wide, m.sign with
  | false, 'J' => single (romanChar? first)
  | false, 'I' => single (kanaChar? first)
  | true, 'B' => single (jis0208.char? first second)
  | true, '@' => single (jis0208.char? first second)
  | true, 'D' => single (jis0212.char? first second)
  | true, 'C' => single (ksx1001.char? first second)
  | true, 'A' => single (gb2312.char? first second)
  | true, 'O' => Japanese.firstPlane? .first first second
  | true, 'Q' => Japanese.firstPlane? .later first second
  | true, 'P' => single (Japanese.secondPlane? .later first second)
  | _, _ => none

/-! ## Forms -/

/-- A form of the encoding: the sets that can be called; whether shifts in and out have a meaning,
whether there is a third set for single characters, and whether a sign of revision may stand in an
escape. -/
structure Form where
  sets : List Mark
  shifts : Bool
  third : Bool
  revision : Bool

def wide (sign : Char) : Mark := ⟨true, sign⟩

def narrow (sign : Char) : Mark := ⟨false, sign⟩

def korean : Form := ⟨[wide 'C'], true, false, false⟩

def japanese : Form := ⟨[wide 'B', narrow 'J', wide '@'], false, false, true⟩

def japanese1 : Form := ⟨[wide 'B', wide 'D', narrow 'J', wide '@'], false, false, true⟩

/-- The form with sets of other languages, and of Western and Greek letters for single characters.
-/
def japanese2 : Form :=
  ⟨[wide 'B', wide 'D', wide 'C', wide 'A', narrow 'J', wide '@', narrow 'A', narrow 'F'],
    false, true, true⟩

def japanese2004 : Form := ⟨[wide 'B', wide 'Q', wide 'P'], false, false, true⟩

def japanese3 : Form := ⟨[wide 'B', wide 'O', wide 'P'], false, false, true⟩

def japaneseExt : Form :=
  ⟨[wide 'B', wide 'D', narrow 'J', narrow 'I', wide '@'], false, false, true⟩

/-! ## Reading -/

/-- The sets that are called by now, whether the second one is at work, and whether an unknown
escape is being copied. -/
structure State where
  sets : Mark × Mark × Mark
  shifted : Bool
  copying : Bool

def start : State := ⟨(ascii, ascii, ascii), false, false⟩

def endsEscape (b : UInt8) : Bool := 0x40 ≤ b.toNat && b.toNat ≤ 0x5A

/-- The length of an escape that begins behind its first byte, of which so many have been looked at.
A sign of revision is passed over together with the byte after it. -/
inductive Length
  | known (length : Nat)
  | cut
  | endless

def lengthFrom (f : Form) : (room : Nat) → (place : Nat) → Bytes → Length
  | 0, _, _ => .endless
  | _ + 1, _, [] => .cut
  | room + 1, place, b :: rest =>
    if endsEscape b then .known (place + 1)
    else
      match f.revision && b = 0x26, rest with
      | true, 0x40 :: rest' => lengthFrom f (room - 2) (place + 3) (rest'.drop 1)
      | _, _ => lengthFrom f room (place + 1) rest

/-- The set that an escape calls, and its place. -/
def called? (f : Form) (escape : List Char) : Option (Mark × Nat) :=
  match escape with
  | ['$', sign] => some (wide sign, 0)
  | ['(', sign] => some (narrow sign, 0)
  | [')', sign] => some (narrow sign, 1)
  | ['.', sign] => if f.third then some (narrow sign, 2) else none
  | ['$', '(', sign] => some (wide sign, 0)
  | ['$', ')', sign] => some (wide sign, 1)
  | [_, _, '\x1b', '$', 'B'] => if f.revision then some (wide 'B', 0) else none
  | _ => none

def call (s : State) (m : Mark) (place : Nat) : State :=
  let (first, second, third) := s.sets
  { s with sets := match place with
    | 0 => (m, second, third)
    | 1 => (first, m, third)
    | _ => (first, second, m) }

def escapeStep (f : Form) (s : State) (rest : Bytes) : State × Step :=
  match lengthFrom f 15 1 rest with
  | .cut => (s, .cut)
  | .endless => (s, .wrong 1)
  | .known length =>
    match called? f ((rest.take (length - 1)).map fun b => Char.ofNat b.toNat) with
    | none => (s, .wrong length)
    | some (m, place) =>
      if m = ascii || f.sets.contains m then (call s m place, .found length [])
      else (s, .wrong length)

/-- A character of the third set. -/
def thirdStep (s : State) (b : UInt8) : Step :=
  let n := b.toNat
  match s.sets.2.2.sign with
  | 'A' => if n < 0x80 then .found 3 [Char.ofNat (n + 0x80)] else .wrong 3
  | 'F' =>
    match SingleByte.Table.named? "iso8859_7" with
    | some table =>
      match if n < 0x20 || 0x80 ≤ n then none else table.chars[n + 0x80]? with
      | some c => if c = Utf8.replacement then .wrong 3 else .found 3 [c]
      | none => .wrong 3
    | none => .wrong 3
  | _ => if n < 0x80 then .found 3 [Char.ofNat n] else .wrong 3

def isEscapeSign (b : UInt8) : Bool :=
  b = 0x28 || b = 0x29 || b = 0x24 || b = 0x2E || b = 0x26

/-- A byte that is looked up in the set at work. -/
def setStep (s : State) (b : UInt8) (rest : Bytes) : Step :=
  let m := if s.shifted then s.sets.2.1 else s.sets.1
  if m = ascii then .byte b
  else if !m.wide then
    match content? m b.toNat 0 with
    | some content => .found 1 content
    | none => .wrong 1
  else match rest with
    | [] => .cut
    | c :: _ =>
      match content? m b.toNat c.toNat with
      | some content => .found 2 content
      | none => .wrong 2

def step (f : Form) : Stepper State := fun s b rest =>
  if s.copying then ({ s with copying := !endsEscape b }, .byte b)
  else if b = 0x1B then
    match rest with
    | [] => (s, .cut)
    | c :: rest' =>
      if isEscapeSign c then escapeStep f s rest
      else if f.third && c = 0x4E then
        match rest' with
        | [] => (s, .cut)
        | d :: _ => (s, thirdStep s d)
      else ({ s with copying := true }, .byte b)
  else if f.shifts && b = 0x0F then ({ s with shifted := false }, .found 1 [])
  else if f.shifts && b = 0x0E then ({ s with shifted := true }, .found 1 [])
  else if b = 0x0A then ({ s with shifted := false }, .byte b)
  else if b.toNat < 0x20 then (s, .byte b)
  else if 0x80 ≤ b.toNat then (s, .wrong 1)
  else (s, setStep s b rest)

def read (f : Form) (bytes : Bytes) : List Char := Stepper.read (step f) start bytes

end Worksheet.Text.Shifting

namespace Worksheet.Text

/-- An encoding of East Asian text. -/
inductive EastAsian
  | shiftJis
  | shiftJisVendor
  | shiftJisPlanes (edition : Japanese.Edition)
  | eucJp
  | eucJpPlanes (edition : Japanese.Edition)
  | iso2022Jp
  | iso2022Jp1
  | iso2022Jp2
  | iso2022Jp2004
  | iso2022Jp3
  | iso2022JpExt
  | iso2022Kr
  | eucKr
  | unifiedHangul
  | johab
  | gb2312
  | gbk
  | gb18030
  | hz
  | big5
  | big5Vendor
  | big5Hkscs
  deriving DecidableEq, Repr

namespace EastAsian

def named : List (String × EastAsian) :=
  [("shift_jis", shiftJis), ("cp932", shiftJisVendor), ("shift_jisx0213", shiftJisPlanes .first),
    ("shift_jis_2004", shiftJisPlanes .later), ("euc_jp", eucJp),
    ("euc_jisx0213", eucJpPlanes .first), ("euc_jis_2004", eucJpPlanes .later),
    ("iso2022_jp", iso2022Jp), ("iso2022_jp_1", iso2022Jp1), ("iso2022_jp_2", iso2022Jp2),
    ("iso2022_jp_2004", iso2022Jp2004), ("iso2022_jp_3", iso2022Jp3),
    ("iso2022_jp_ext", iso2022JpExt), ("iso2022_kr", iso2022Kr), ("euc_kr", eucKr),
    ("cp949", unifiedHangul), ("johab", johab), ("gb2312", gb2312), ("gbk", gbk),
    ("gb18030", gb18030), ("hz", hz), ("big5", big5), ("cp950", big5Vendor),
    ("big5hkscs", big5Hkscs)]

def decode : EastAsian → Bytes → List Char
  | shiftJis => Japanese.readShifted
  | shiftJisVendor => Japanese.readVendor
  | shiftJisPlanes e => Japanese.readShiftedPlanes e
  | eucJp => Japanese.readExtended
  | eucJpPlanes e => Japanese.readExtendedPlanes e
  | iso2022Jp => Shifting.read Shifting.japanese
  | iso2022Jp1 => Shifting.read Shifting.japanese1
  | iso2022Jp2 => Shifting.read Shifting.japanese2
  | iso2022Jp2004 => Shifting.read Shifting.japanese2004
  | iso2022Jp3 => Shifting.read Shifting.japanese3
  | iso2022JpExt => Shifting.read Shifting.japaneseExt
  | iso2022Kr => Shifting.read Shifting.korean
  | eucKr => Korean.readExtended
  | unifiedHangul => Korean.readUnified
  | johab => Korean.readLetters
  | gb2312 => Chinese.readGb2312
  | gbk => Chinese.readGbk
  | gb18030 => Chinese.readGb18030
  | hz => Chinese.readSevenBit
  | big5 => Chinese.readBig5
  | big5Vendor => Chinese.readVendor
  | big5Hkscs => Chinese.readHkscs

end EastAsian

end Worksheet.Text
