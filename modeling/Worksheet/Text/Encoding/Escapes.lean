-- Texts with escapes: a byte is the character with its code, and a backslash begins an escape for
-- another character.
import Worksheet.Text.CharacterName
import Worksheet.Text.Encoding.Units

namespace Worksheet.Text.Escapes

/-- An escape, after its backslash: how many bytes it takes, and what it spells. -/
structure Piece where
  width : Nat
  content : Points
  deriving DecidableEq, Repr

/-- What stands for an escape without a meaning. -/
def unknown : Points := [.ofChar Utf8.replacement]

def hexDigit? (b : UInt8) : Option Nat :=
  let n := b.toNat
  if 0x30 ≤ n && n ≤ 0x39 then some (n - 0x30)
  else if 0x61 ≤ n && n ≤ 0x66 then some (n - 0x61 + 10)
  else if 0x41 ≤ n && n ≤ 0x46 then some (n - 0x41 + 10)
  else none

/-- The digits that begin a byte text, at most so many. -/
def digits (digit? : UInt8 → Option Nat) : Nat → Bytes → List Nat
  | 0, _ => []
  | _, [] => []
  | n + 1, b :: rest =>
    match digit? b with
    | some d => d :: digits digit? n rest
    | none => []

def valueIn (base : Nat) (ds : List Nat) : Nat := ds.foldl (fun n d => base * n + d) 0

/-- An escape with a fixed number of hexadecimal digits after its letter. With too few of them
the escape ends before the first byte that is none. -/
def hexPiece (count : Nat) (rest : Bytes) : Piece :=
  let ds := digits hexDigit? count rest
  if ds.length < count then ⟨1 + ds.length, unknown⟩
  else ⟨1 + count, [Units.pointOf (valueIn 16 ds)]⟩

def octalDigit? (b : UInt8) : Option Nat :=
  if 0x30 ≤ b.toNat && b.toNat ≤ 0x37 then some (b.toNat - 0x30) else none

def octalPiece (bytes : Bytes) : Piece :=
  let ds := digits octalDigit? 3 bytes
  ⟨ds.length, [Units.pointOf (valueIn 8 ds)]⟩

/-- An escape by the name of a character in braces. -/
def namePiece : Bytes → Piece
  | 0x7B :: rest =>
    let name := rest.takeWhile (· ≠ 0x7D)
    if name.length = rest.length || name.isEmpty then ⟨2 + name.length, unknown⟩
    else
      let code := CharacterName.codeOf? (name.map fun b => Char.ofNat b.toNat)
      ⟨3 + name.length, (code.map fun n => [Units.pointOf n]).getD unknown⟩
  | _ => ⟨1, unknown⟩

/-- The characters with an escape of one letter. -/
def letterEscapes : List (Char × List Char) :=
  [('\n', []), ('\\', ['\\']), ('\'', ['\'']), ('"', ['"']), ('b', ['\x08']), ('f', ['\x0c']),
    ('t', ['\t']), ('n', ['\n']), ('r', ['\r']), ('v', ['\x0b']), ('a', ['\x07'])]

/-- The escape that begins with a byte. -/
def piece : Bytes → Piece
  | [] => ⟨0, unknown⟩
  | b :: rest =>
    let c := Char.ofNat b.toNat
    match letterEscapes.lookup c with
    | some spelled => ⟨1, .ofChars spelled⟩
    | none =>
      if (octalDigit? b).isSome then octalPiece (b :: rest)
      else match c with
        | 'x' => hexPiece 2 rest
        | 'u' => hexPiece 4 rest
        | 'U' => hexPiece 8 rest
        | 'N' => namePiece rest
        | _ => ⟨1, .ofChars ['\\', c]⟩

/-- The escape that begins with a byte where only code points have escapes. -/
def rawPiece : Bytes → Piece
  | [] => ⟨0, .ofChars ['\\']⟩
  | b :: rest =>
    match Char.ofNat b.toNat with
    | 'u' => hexPiece 4 rest
    | 'U' => hexPiece 8 rest
    | c => ⟨1, .ofChars ['\\', c]⟩

/-- Reads a text with the escapes of a kind. -/
def decodeAfter (piece : Bytes → Piece) (found : Points) : Bytes → Points
  | [] => found.reverse
  | b :: rest =>
    if b = 0x5C then
      let p := piece rest
      decodeAfter piece (p.content.reverse ++ found) (rest.drop p.width)
    else decodeAfter piece (Units.pointOf b.toNat :: found) rest
  termination_by bytes => bytes.length
  decreasing_by
    all_goals simp only [List.length_drop, List.length_cons]
    all_goals omega

def decode (bytes : Bytes) : Points := decodeAfter piece [] bytes

def decodeRaw (bytes : Bytes) : Points := decodeAfter rawPiece [] bytes

end Worksheet.Text.Escapes
