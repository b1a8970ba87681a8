-- Names in messages: as a shell would take them back, or between the quotes of a sentence.
import Worksheet.Text.Octets
import Worksheet.Text.Printable

namespace Worksheet.Host

open Text (Octets)

namespace Quoting

/-! ## Characters -/

/-- The next character of a text, with how many octets it takes and whether it can be shown. -/
def characterAt (text : Octets) : Nat × Bool :=
  match text with
  | [] => (0, true)
  | c :: rest =>
    if c.toNat < 0x80 then (1, 0x20 ≤ c.toNat && c.toNat < 0x7f)
    else
      let width := 1 + ((rest.take 3).takeWhile fun b => 0x80 ≤ b.toNat && b.toNat < 0xC0).length
      let needed := if c.toNat < 0xE0 then 2 else if c.toNat < 0xF0 then 3 else 4
      if c.toNat < 0xC2 || width < needed then (1, false)
      else match (Octets.spelled (text.take needed)).toList with
        | [c] => (needed, c ≠ Char.ofNat 0xFFFD && Text.isPrintable c)
        | _ => (1, false)

/-- Pieces of a text: a character that can be shown, or an octet that cannot. -/
inductive Piece
  | shown (text : Octets)
  | hidden (octet : Char)

def piecesAfter : Nat → Octets → List Piece
  | 0, _ => []
  | _ + 1, [] => []
  | n + 1, c :: rest =>
    let (width, shown) := characterAt (c :: rest)
    if shown then .shown ((c :: rest).take width) :: piecesAfter n ((c :: rest).drop width)
    else .hidden c :: piecesAfter n rest

def piecesOf (text : Octets) : List Piece := piecesAfter text.length text

/-- Control characters with a letter of their own. -/
def letters : List (Nat × Char) :=
  [(7, 'a'), (8, 'b'), (9, 't'), (10, 'n'), (11, 'v'), (12, 'f'), (13, 'r')]

/-- An octet that cannot be shown, behind a backslash: as a letter, or as three octal digits. A
number may be shorter when no digit follows. -/
def escaped (c : Char) : Octets :=
  match letters.lookup c.toNat with
  | some letter => ['\\', letter]
  | none =>
    let ds := Nat.toDigits 8 c.toNat
    '\\' :: List.replicate (3 - ds.length) '0' ++ ds

/-! ## For a shell -/

/-- Characters that stand for themselves wherever a shell reads them. -/
def isPlain (c : Char) : Bool :=
  c.isAlphanum || "%+,-./:]_@\x7b\x7d#~".toList.contains c || 0x80 ≤ c.toNat

/-- Characters that can stand between double quotes with a single quote. -/
def isEasy (c : Char) : Bool := c.isAlphanum || "%+,-./:]_ '#~\x7b\x7d".toList.contains c

def isHidden : Piece → Bool
  | .hidden _ => true
  | .shown _ => false

/-- A name needs quotes. Some characters need them at its start only, and braces when alone. -/
def needsQuotes (name : Octets) : Bool :=
  name.isEmpty || (piecesOf name).any isHidden || !name.all isPlain ||
    name.head? = some '#' || name.head? = some '~' || name = ['\x7b'] || name = ['\x7d']

/-- The inside of single quotes. Single quotes are left and taken up again around one of their kind,
and around what cannot be shown. The flag says that such is being written. -/
def between (escaping : Bool) : List Piece → Octets
  | [] => []
  | .hidden c :: rest =>
    (if escaping then [] else ['\'', '$', '\'']) ++ escaped c ++ between true rest
  | .shown t :: rest =>
    (if escaping then ['\'', '\''] else []) ++
      (if t = ['\''] then ['\'', '\\', '\'', '\''] else t) ++ between false rest

/-- A name in quotes as a shell takes it back. -/
def quoted (name : Octets) : Octets :=
  if name.contains '\'' && name.all isEasy then '"' :: name ++ ['"']
  else '\'' :: between false (piecesOf name) ++ ['\'']

/-- A name as a shell takes it back, in quotes only if it needs them. -/
def bare (name : Octets) : Octets := if needsQuotes name then quoted name else name

/-! ## In a sentence -/

/-- The closing quote of a sentence, and the backslash, stand behind a backslash. -/
def inside : List Piece → Octets
  | [] => []
  | .hidden c :: rest => escaped c ++ inside rest
  | .shown t :: rest =>
    (if t = ['\\'] || t = Octets.ofString "’" then '\\' :: t else t) ++ inside rest

def sentence (name : Octets) : Octets :=
  Octets.ofString "‘" ++ inside (piecesOf name) ++ Octets.ofString "’"

end Quoting

end Worksheet.Host
