-- Named text encodings, as a program's output may be declared in one of them. What an encoding has
-- no character for becomes a replacement character.
import Worksheet.Text.Encoding.EastAsian
import Worksheet.Text.Encoding.Escapes
import Worksheet.Text.Encoding.Names
import Worksheet.Text.Encoding.Punycode
import Worksheet.Text.Encoding.Utf7

namespace Worksheet.Text

/-- An encoding of text. One with an unstated byte order begins with a mark. -/
inductive Encoding
  | utf8
  | utf8Marked
  | utf7
  | utf16 (order : Option ByteOrder)
  | utf32 (order : Option ByteOrder)
  | ascii
  | latin
  | singleByte (table : SingleByte.Table)
  | eastAsian (encoding : EastAsian)
  | escaped
  | escapedPoints
  | punycode
  deriving DecidableEq

/-- What a name can stand for: an encoding of text, one that maps bytes to bytes or text to text,
or one that never reads. -/
inductive NamedEncoding
  | text (encoding : Encoding)
  | notText
  | refusing (reason : String)
  deriving DecidableEq

/-- Why an output cannot be read in the encoding of a name. -/
inductive EncodingFault
  | nulInName
  | unknown (name : String)
  | notText (name : String)
  | refused (name reason : String)
  | badByte (bad : Punycode.BadByte)
  deriving DecidableEq, Repr

namespace EncodingFault

/-- A message shows the first 400 bytes of the name of an encoding that is not one of text. -/
def message : EncodingFault → String
  | nulInName => "embedded null character"
  | unknown name => "unknown encoding: " ++ name
  | notText name =>
    "'" ++ String.ofList (Utf8.decodeLossy ((Utf8.encodeString name).take 400)) ++
      "' is not a text encoding; use codecs.decode() to handle arbitrary codecs"
  | refused name reason =>
    "decoding with '" ++ name ++ "' codec failed (UnicodeError: " ++ reason ++ ")"
  | badByte bad => bad.message

end EncodingFault

namespace Encoding

/-- The encodings by their own names, but for those with a table. -/
def named : List (String × NamedEncoding) :=
  [("utf_8", .text .utf8), ("utf_8_sig", .text .utf8Marked), ("utf_7", .text .utf7),
    ("utf_16", .text (.utf16 none)), ("utf_16_le", .text (.utf16 (some .little))),
    ("utf_16_be", .text (.utf16 (some .big))), ("utf_32", .text (.utf32 none)),
    ("utf_32_le", .text (.utf32 (some .little))), ("utf_32_be", .text (.utf32 (some .big))),
    ("ascii", .text .ascii), ("latin_1", .text .latin), ("charmap", .text .latin),
    ("unicode_escape", .text .escaped), ("raw_unicode_escape", .text .escapedPoints),
    ("punycode", .text .punycode), ("base64_codec", .notText), ("bz2_codec", .notText),
    ("hex_codec", .notText), ("quopri_codec", .notText), ("rot_13", .notText),
    ("uu_codec", .notText), ("zlib_codec", .notText),
    ("undefined", .refusing "undefined encoding"),
    ("idna", .refusing "Unsupported error handling replace")]

def ofOwnName? (name : String) : Option NamedEncoding :=
  named.lookup name <|> (SingleByte.Table.named? name).map (fun t => .text (.singleByte t)) <|>
    (EastAsian.named.lookup name).map fun e => .text (.eastAsian e)

def find? (name : String) : Option NamedEncoding :=
  (EncodingName.candidates name).findSome? ofOwnName?

def dropMark : Bytes → Bytes
  | 0xEF :: 0xBB :: 0xBF :: rest => rest
  | bytes => bytes

def decode (e : Encoding) (bytes : Bytes) : Except Punycode.BadByte Points :=
  match e with
  | .utf8 => .ok (.ofChars (Utf8.decodeLossy bytes))
  | .utf8Marked => .ok (.ofChars (Utf8.decodeLossy (dropMark bytes)))
  | .utf7 => .ok (Utf7.decode bytes)
  | .utf16 order => .ok (.ofChars (Units.decode16 order bytes))
  | .utf32 order => .ok (.ofChars (Units.decode32 order bytes))
  | .ascii => .ok (.ofChars (bytes.map Punycode.asciiChar))
  | .latin => .ok (.ofChars (bytes.map fun b => Char.ofNat b.toNat))
  | .singleByte table => .ok (.ofChars (table.decode bytes))
  | .eastAsian e => .ok (.ofChars (e.decode bytes))
  | .escaped => .ok (Escapes.decode bytes)
  | .escapedPoints => .ok (Escapes.decodeRaw bytes)
  | .punycode => Punycode.decode bytes

/-- Reads bytes in the encoding of a name. No bytes are an empty text in every encoding, known
or not. -/
def read (name : String) (bytes : Bytes) : Except EncodingFault Points :=
  if name.toList.contains '\x00' then .error .nulInName
  else if bytes.isEmpty then .ok []
  else match find? name with
    | none => .error (.unknown name)
    | some .notText => .error (.notText name)
    | some (.refusing reason) => .error (.refused name reason)
    | some (.text e) => (e.decode bytes).mapError .badByte

end Encoding

end Worksheet.Text
