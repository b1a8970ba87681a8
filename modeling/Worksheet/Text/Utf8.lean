-- UTF-8. A code point below U+0080 is one byte, and two to four bytes carry the others. Bytes
-- are read as pieces: a character, or the longest run that could have begun one.
import Worksheet.Text.CodePoint
import Worksheet.Text.Quoted

namespace Worksheet.Text

abbrev Bytes := List UInt8

namespace Utf8

/-! ## Writing -/

def continuation (n : Nat) : UInt8 := UInt8.ofNat (0x80 + n % 64)

/-- The bytes of one code point. -/
def encodePoint (n : Nat) : Bytes :=
  if n < 0x80 then [UInt8.ofNat n]
  else if n < 0x800 then [UInt8.ofNat (0xC0 + n / 64), continuation n]
  else if n < 0x10000 then
    [UInt8.ofNat (0xE0 + n / 4096), continuation (n / 64), continuation n]
  else
    [UInt8.ofNat (0xF0 + n / 262144), continuation (n / 4096), continuation (n / 64),
      continuation n]

def encodeChars (cs : List Char) : Bytes := cs.flatMap fun c => encodePoint c.toNat

def encodeString (s : String) : Bytes := encodeChars s.toList

/-- The first run of surrogates in a text: where it starts, and its code points. -/
structure SurrogateRun where
  position : Nat
  first : CodePoint
  length : Nat
  deriving DecidableEq, Repr

def surrogateRun? (points : Points) : Option SurrogateRun :=
  match points.dropWhile (fun p => !p.isSurrogate) with
  | [] => none
  | p :: rest =>
    some ⟨(points.takeWhile fun p => !p.isSurrogate).length, p,
      1 + (rest.takeWhile fun p => p.isSurrogate).length⟩

/-- A text has an encoding when it holds no surrogate. -/
def encode (points : Points) : Except SurrogateRun Bytes :=
  match surrogateRun? points with
  | some run => .error run
  | none => .ok (points.flatMap fun p => encodePoint p.val)

def SurrogateRun.message (r : SurrogateRun) : String :=
  let place :=
    if r.length = 1 then
      "character '" ++ String.ofList (codeEscape r.first.val) ++ "' in position " ++
        toString r.position
    else
      "characters in position " ++ toString r.position ++ "-" ++
        toString (r.position + r.length - 1)
  "'utf-8' codec can't encode " ++ place ++ ": surrogates not allowed"

/-! ## Reading -/

inductive Flaw
  | start
  | continuation
  | truncated
  deriving DecidableEq, Repr

def Flaw.message : Flaw → String
  | .start => "invalid start byte"
  | .continuation => "invalid continuation byte"
  | .truncated => "unexpected end of data"

/-- A piece of a byte text: how many bytes it takes, and the character that they spell. -/
structure Piece where
  width : Nat
  content : Except Flaw Char

def isContinuation (b : UInt8) : Bool := 0x80 ≤ b.toNat && b.toNat < 0xC0

def low (b : UInt8) : Nat := b.toNat % 64

/-- Whether a second byte may follow a first byte: no overlong form, no surrogate, nothing
above U+10FFFF. -/
def fits (first second : UInt8) : Bool :=
  isContinuation second &&
    (match first.toNat with
     | 0xE0 => 0xA0 ≤ second.toNat
     | 0xED => second.toNat < 0xA0
     | 0xF0 => 0x90 ≤ second.toNat
     | 0xF4 => second.toNat < 0x90
     | _ => true)

def piece3 (b : UInt8) : Bytes → Piece
  | [] => ⟨1, .error .truncated⟩
  | c :: rest =>
    if !fits b c then ⟨1, .error .continuation⟩
    else match rest with
      | [] => ⟨2, .error .truncated⟩
      | d :: _ =>
        if !isContinuation d then ⟨2, .error .continuation⟩
        else ⟨3, .ok (Char.ofNat (b.toNat % 16 * 4096 + low c * 64 + low d))⟩

def piece4 (b : UInt8) : Bytes → Piece
  | [] => ⟨1, .error .truncated⟩
  | c :: rest =>
    if !fits b c then ⟨1, .error .continuation⟩
    else match rest with
      | [] => ⟨2, .error .truncated⟩
      | d :: rest =>
        if !isContinuation d then ⟨2, .error .continuation⟩
        else match rest with
          | [] => ⟨3, .error .truncated⟩
          | e :: _ =>
            if !isContinuation e then ⟨3, .error .continuation⟩
            else ⟨4, .ok (Char.ofNat
              (b.toNat % 8 * 262144 + low c * 4096 + low d * 64 + low e))⟩

/-- The piece that opens with a byte. -/
def piece (b : UInt8) (rest : Bytes) : Piece :=
  let n := b.toNat
  if n < 0x80 then ⟨1, .ok (Char.ofNat n)⟩
  else if n < 0xC2 then ⟨1, .error .start⟩
  else if n < 0xE0 then
    match rest with
    | [] => ⟨1, .error .truncated⟩
    | c :: _ =>
      if isContinuation c then ⟨2, .ok (Char.ofNat (n % 32 * 64 + low c))⟩
      else ⟨1, .error .continuation⟩
  else if n < 0xF0 then piece3 b rest
  else if n < 0xF5 then piece4 b rest
  else ⟨1, .error .start⟩

/-- The pieces of a byte text, after those already found (latest first). -/
def piecesAfter (found : List Piece) : Bytes → List Piece
  | [] => found.reverse
  | b :: rest =>
    let p := piece b rest
    piecesAfter (p :: found) (rest.drop (p.width - 1))
  termination_by bytes => bytes.length
  decreasing_by
    simp only [List.length_drop, List.length_cons]
    omega

def pieces (bytes : Bytes) : List Piece := piecesAfter [] bytes

def replacement : Char := Char.ofNat 0xFFFD

/-- Reads any bytes: each flawed piece becomes one replacement character. -/
def decodeLossy (bytes : Bytes) : List Char :=
  (pieces bytes).map fun p => match p.content with
    | .ok c => c
    | .error _ => replacement

/-- Where bytes stop being UTF-8: the position and width of the flawed piece and its first
byte. -/
structure BadBytes where
  position : Nat
  width : Nat
  byte : UInt8
  flaw : Flaw
  deriving DecidableEq, Repr

/-- The first flawed piece, with its position. -/
def flawed? : Nat → List Piece → Option (Nat × Nat × Flaw)
  | _, [] => none
  | position, p :: rest =>
    match p.content with
    | .ok _ => flawed? (position + p.width) rest
    | .error flaw => some (position, p.width, flaw)

/-- Reads UTF-8, and nothing else. -/
def decode (bytes : Bytes) : Except BadBytes (List Char) :=
  let found := pieces bytes
  match flawed? 0 found with
  | some (position, width, flaw) =>
    .error ⟨position, width, (bytes.drop position).headD 0, flaw⟩
  | none => .ok (found.filterMap fun p => p.content.toOption)

def BadBytes.message (e : BadBytes) : String :=
  let place :=
    if e.width = 1 then
      "byte 0x" ++ String.ofList (hexDigits 2 e.byte.toNat) ++ " in position " ++
        toString e.position
    else
      "bytes in position " ++ toString e.position ++ "-" ++ toString (e.position + e.width - 1)
  "'utf-8' codec can't decode " ++ place ++ ": " ++ e.flaw.message

end Utf8

end Worksheet.Text
