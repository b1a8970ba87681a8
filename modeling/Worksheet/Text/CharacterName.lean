-- Names of characters. Most names are kept in tables; those of Hangul syllables and of Chinese
-- characters are made from the code point, and some characters have further names.
import Worksheet.Text.CharacterName.BasicPlane
import Worksheet.Text.CharacterName.Supplementary
import Worksheet.Text.CodePoint

namespace Worksheet.Text.CharacterName

/-- Further names, with the code points that they stand for. -/
def aliases : List (Nat × String) := [
  (0x00, "NULL"), (0x00, "NUL"), (0x01, "START OF HEADING"), (0x01, "SOH"),
  (0x02, "START OF TEXT"), (0x02, "STX"), (0x03, "END OF TEXT"), (0x03, "ETX"),
  (0x04, "END OF TRANSMISSION"), (0x04, "EOT"), (0x05, "ENQUIRY"), (0x05, "ENQ"),
  (0x06, "ACKNOWLEDGE"), (0x06, "ACK"), (0x07, "ALERT"), (0x07, "BEL"), (0x08, "BACKSPACE"),
  (0x08, "BS"), (0x09, "CHARACTER TABULATION"), (0x09, "HORIZONTAL TABULATION"), (0x09, "HT"),
  (0x09, "TAB"), (0x0A, "LINE FEED"), (0x0A, "NEW LINE"), (0x0A, "END OF LINE"), (0x0A, "LF"),
  (0x0A, "NL"), (0x0A, "EOL"), (0x0B, "LINE TABULATION"), (0x0B, "VERTICAL TABULATION"),
  (0x0B, "VT"), (0x0C, "FORM FEED"), (0x0C, "FF"), (0x0D, "CARRIAGE RETURN"), (0x0D, "CR"),
  (0x0E, "SHIFT OUT"), (0x0E, "LOCKING-SHIFT ONE"), (0x0E, "SO"), (0x0F, "SHIFT IN"),
  (0x0F, "LOCKING-SHIFT ZERO"), (0x0F, "SI"), (0x10, "DATA LINK ESCAPE"), (0x10, "DLE"),
  (0x11, "DEVICE CONTROL ONE"), (0x11, "DC1"), (0x12, "DEVICE CONTROL TWO"), (0x12, "DC2"),
  (0x13, "DEVICE CONTROL THREE"), (0x13, "DC3"), (0x14, "DEVICE CONTROL FOUR"), (0x14, "DC4"),
  (0x15, "NEGATIVE ACKNOWLEDGE"), (0x15, "NAK"), (0x16, "SYNCHRONOUS IDLE"), (0x16, "SYN"),
  (0x17, "END OF TRANSMISSION BLOCK"), (0x17, "ETB"), (0x18, "CANCEL"), (0x18, "CAN"),
  (0x19, "END OF MEDIUM"), (0x19, "EOM"), (0x1A, "SUBSTITUTE"), (0x1A, "SUB"), (0x1B, "ESCAPE"),
  (0x1B, "ESC"), (0x1C, "INFORMATION SEPARATOR FOUR"), (0x1C, "FILE SEPARATOR"), (0x1C, "FS"),
  (0x1D, "INFORMATION SEPARATOR THREE"), (0x1D, "GROUP SEPARATOR"), (0x1D, "GS"),
  (0x1E, "INFORMATION SEPARATOR TWO"), (0x1E, "RECORD SEPARATOR"), (0x1E, "RS"),
  (0x1F, "INFORMATION SEPARATOR ONE"), (0x1F, "UNIT SEPARATOR"), (0x1F, "US"), (0x20, "SP"),
  (0x7F, "DELETE"), (0x7F, "DEL"), (0x80, "PADDING CHARACTER"), (0x80, "PAD"),
  (0x81, "HIGH OCTET PRESET"), (0x81, "HOP"), (0x82, "BREAK PERMITTED HERE"), (0x82, "BPH"),
  (0x83, "NO BREAK HERE"), (0x83, "NBH"), (0x84, "INDEX"), (0x84, "IND"), (0x85, "NEXT LINE"),
  (0x85, "NEL"), (0x86, "START OF SELECTED AREA"), (0x86, "SSA"), (0x87, "END OF SELECTED AREA"),
  (0x87, "ESA"), (0x88, "CHARACTER TABULATION SET"), (0x88, "HORIZONTAL TABULATION SET"),
  (0x88, "HTS"), (0x89, "CHARACTER TABULATION WITH JUSTIFICATION"),
  (0x89, "HORIZONTAL TABULATION WITH JUSTIFICATION"), (0x89, "HTJ"),
  (0x8A, "LINE TABULATION SET"), (0x8A, "VERTICAL TABULATION SET"), (0x8A, "VTS"),
  (0x8B, "PARTIAL LINE FORWARD"), (0x8B, "PARTIAL LINE DOWN"), (0x8B, "PLD"),
  (0x8C, "PARTIAL LINE BACKWARD"), (0x8C, "PARTIAL LINE UP"), (0x8C, "PLU"),
  (0x8D, "REVERSE LINE FEED"), (0x8D, "REVERSE INDEX"), (0x8D, "RI"), (0x8E, "SINGLE SHIFT TWO"),
  (0x8E, "SINGLE-SHIFT-2"), (0x8E, "SS2"), (0x8F, "SINGLE SHIFT THREE"),
  (0x8F, "SINGLE-SHIFT-3"), (0x8F, "SS3"), (0x90, "DEVICE CONTROL STRING"), (0x90, "DCS"),
  (0x91, "PRIVATE USE ONE"), (0x91, "PRIVATE USE-1"), (0x91, "PU1"), (0x92, "PRIVATE USE TWO"),
  (0x92, "PRIVATE USE-2"), (0x92, "PU2"), (0x93, "SET TRANSMIT STATE"), (0x93, "STS"),
  (0x94, "CANCEL CHARACTER"), (0x94, "CCH"), (0x95, "MESSAGE WAITING"), (0x95, "MW"),
  (0x96, "START OF GUARDED AREA"), (0x96, "START OF PROTECTED AREA"), (0x96, "SPA"),
  (0x97, "END OF GUARDED AREA"), (0x97, "END OF PROTECTED AREA"), (0x97, "EPA"),
  (0x98, "START OF STRING"), (0x98, "SOS"), (0x99, "SINGLE GRAPHIC CHARACTER INTRODUCER"),
  (0x99, "SGC"), (0x9A, "SINGLE CHARACTER INTRODUCER"), (0x9A, "SCI"),
  (0x9B, "CONTROL SEQUENCE INTRODUCER"), (0x9B, "CSI"), (0x9C, "STRING TERMINATOR"),
  (0x9C, "ST"), (0x9D, "OPERATING SYSTEM COMMAND"), (0x9D, "OSC"), (0x9E, "PRIVACY MESSAGE"),
  (0x9E, "PM"), (0x9F, "APPLICATION PROGRAM COMMAND"), (0x9F, "APC"), (0xA0, "NBSP"),
  (0xAD, "SHY"), (0x1A2, "LATIN CAPITAL LETTER GHA"), (0x1A3, "LATIN SMALL LETTER GHA"),
  (0x34F, "CGJ"), (0x61C, "ALM"), (0x709, "SYRIAC SUBLINEAR COLON SKEWED LEFT"),
  (0xCDE, "KANNADA LETTER LLLA"), (0xE9D, "LAO LETTER FO FON"), (0xE9F, "LAO LETTER FO FAY"),
  (0xEA3, "LAO LETTER RO"), (0xEA5, "LAO LETTER LO"),
  (0xFD0, "TIBETAN MARK BKA- SHOG GI MGO RGYAN"), (0x11EC, "HANGUL JONGSEONG YESIEUNG-KIYEOK"),
  (0x11ED, "HANGUL JONGSEONG YESIEUNG-SSANGKIYEOK"), (0x11EE, "HANGUL JONGSEONG SSANGYESIEUNG"),
  (0x11EF, "HANGUL JONGSEONG YESIEUNG-KHIEUKH"), (0x180B, "FVS1"), (0x180C, "FVS2"),
  (0x180D, "FVS3"), (0x180E, "MVS"), (0x180F, "FVS4"), (0x200B, "ZWSP"), (0x200C, "ZWNJ"),
  (0x200D, "ZWJ"), (0x200E, "LRM"), (0x200F, "RLM"), (0x202A, "LRE"), (0x202B, "RLE"),
  (0x202C, "PDF"), (0x202D, "LRO"), (0x202E, "RLO"), (0x202F, "NNBSP"), (0x205F, "MMSP"),
  (0x2060, "WJ"), (0x2066, "LRI"), (0x2067, "RLI"), (0x2068, "FSI"), (0x2069, "PDI"),
  (0x2118, "WEIERSTRASS ELLIPTIC FUNCTION"), (0x2448, "MICR ON US SYMBOL"),
  (0x2449, "MICR DASH SYMBOL"),
  (0x2B7A, "LEFTWARDS TRIANGLE-HEADED ARROW WITH DOUBLE VERTICAL STROKE"),
  (0x2B7C, "RIGHTWARDS TRIANGLE-HEADED ARROW WITH DOUBLE VERTICAL STROKE"),
  (0xA015, "YI SYLLABLE ITERATION MARK"), (0xAA6E, "MYANMAR LETTER KHAMTI LLA"),
  (0xFE18, "PRESENTATION FORM FOR VERTICAL RIGHT WHITE LENTICULAR BRACKET"),
  (0xFEFF, "BYTE ORDER MARK"), (0xFEFF, "BOM"), (0xFEFF, "ZWNBSP"),
  (0x122D4, "CUNEIFORM SIGN NU11 TENU"), (0x122D5, "CUNEIFORM SIGN NU11 OVER NU11 BUR OVER BUR"),
  (0x16E56, "MEDEFAIDRIN CAPITAL LETTER H"), (0x16E57, "MEDEFAIDRIN CAPITAL LETTER NG"),
  (0x16E76, "MEDEFAIDRIN SMALL LETTER H"), (0x16E77, "MEDEFAIDRIN SMALL LETTER NG"),
  (0x1B001, "HENTAIGANA LETTER E-1"),
  (0x1D0C5, "BYZANTINE MUSICAL SYMBOL FTHORA SKLIRON CHROMA VASIS")]

/-! ## Names from tables -/

/-- What follows a beginning. -/
def after? : (start : List Char) → List Char → Option (List Char)
  | [], cs => some cs
  | _ :: _, [] => none
  | s :: start, c :: cs => if s = c then after? start cs else none

/-- The place of a text between bars. -/
def placeBetweenBars (text : List Char) (place : Nat) (part : List Char) : List Char → Option Nat
  | [] => if part.reverse = text then some place else none
  | '|' :: rest =>
    if part.reverse = text then some place else placeBetweenBars text (place + 1) [] rest
  | c :: rest => placeBetweenBars text place (c :: part) rest

/-- The code point of a name in a run. -/
def Run.codeOf? (r : Run) (name : List Char) : Option Nat :=
  (after? r.start.toList name).bind fun rest =>
    (placeBetweenBars rest 0 [] r.ends.toList).map (r.first + ·)

/-- The code point of a name in the tables. Variation selectors are numbered in two ranges. -/
def listed? (name : List Char) : Option Nat :=
  (basicPlane.findSome? fun r => r.codeOf? name).orElse fun _ =>
  (supplementary.findSome? fun r => r.codeOf? name).orElse fun _ =>
  ((aliases.find? fun a => a.2.toList = name).map (·.1)).orElse fun _ =>
  (after? "VS".toList name).bind fun digits =>
    if digits.head? = some '0' then none
    else (String.ofList digits).toNat?.bind fun n =>
      if !digits.all Char.isDigit then none
      else if 1 ≤ n && n ≤ 16 then some (0xFE00 + (n - 1))
      else if 17 ≤ n && n ≤ 256 then some (0xE0100 + (n - 17))
      else none

/-! ## Names with a code point -/

def upperHexValue? (c : Char) : Option Nat :=
  if c.isDigit then some (c.toNat - '0'.toNat)
  else if 'A' ≤ c && c ≤ 'F' then some (c.toNat - 'A'.toNat + 10)
  else none

/-- The number that four or five digits in upper case spell. -/
def code? (digits : List Char) : Option Nat :=
  if digits.length = 4 || digits.length = 5 then
    (digits.mapM upperHexValue?).map fun ds => ds.foldl (fun n d => 16 * n + d) 0
  else none

def unifiedIdeographs : List CodeRange :=
  [(0x3400, 0x4DBF), (0x4E00, 0x9FFF), (0x20000, 0x2A6DF), (0x2A700, 0x2B738), (0x2B740, 0x2B81D),
    (0x2B820, 0x2CEA1), (0x2CEB0, 0x2EBE0), (0x30000, 0x3134A)]

/-- The names that end with the code point, and the ranges that have them. -/
def coded : List (String × CodeRange) :=
  [("CJK COMPATIBILITY IDEOGRAPH-", (0xF900, 0xFA6D)),
    ("CJK COMPATIBILITY IDEOGRAPH-", (0xFA70, 0xFAD9)),
    ("CJK COMPATIBILITY IDEOGRAPH-", (0x2F800, 0x2FA1D)),
    ("KHITAN SMALL SCRIPT CHARACTER-", (0x18B00, 0x18CD5)),
    ("NUSHU CHARACTER-", (0x1B170, 0x1B2FB))]

def codeIn? (ranges : List CodeRange) (digits : List Char) : Option Nat :=
  (code? digits).bind fun n =>
    if ranges.any fun r => r.1 ≤ n && n ≤ r.2 then some n else none

def coded? (name : List Char) : Option Nat :=
  coded.findSome? fun (start, range) => (after? start.toList name).bind (codeIn? [range])

/-! ## Hangul syllables -/

def leads : List String :=
  ["G", "GG", "N", "D", "DD", "R", "M", "B", "BB", "S", "SS", "", "J", "JJ", "C", "K", "T", "P", "H"]

def vowels : List String :=
  ["A", "AE", "YA", "YAE", "EO", "E", "YEO", "YE", "O", "WA", "WAE", "OE", "YO", "U", "WEO", "WE",
    "WI", "YU", "EU", "YI", "I"]

def trails : List String :=
  ["", "G", "GG", "GS", "N", "NJ", "NH", "D", "L", "LG", "LM", "LB", "LS", "LT", "LP", "LH", "M",
    "B", "BS", "S", "SS", "NG", "J", "C", "K", "T", "P", "H"]

/-- The longest part that a text begins with, with its number, and the rest. -/
def longest? (parts : List String) (text : List Char) : Option (Nat × List Char) :=
  parts.zipIdx.foldl (fun best (part, n) =>
    match after? part.toList text with
    | none => best
    | some rest =>
      match best with
      | some (_, shortest) => if rest.length < shortest.length then some (n, rest) else best
      | none => some (n, rest)) none

def syllable? (text : List Char) : Option Nat := do
  let (l, text) ← longest? leads text
  let (v, text) ← longest? vowels text
  let (t, text) ← longest? trails text
  if text.isEmpty then some (0xAC00 + 588 * l + 28 * v + t) else none

/-! ## All names -/

/-- The code point of a name. Case makes no difference but in the names that are made from a
syllable or a unified ideograph. -/
def codeOf? (name : List Char) : Option Nat :=
  match after? "HANGUL SYLLABLE ".toList name with
  | some text => syllable? text
  | none =>
    match after? "CJK UNIFIED IDEOGRAPH-".toList name with
    | some digits => codeIn? unifiedIdeographs digits
    | none =>
      let upper := name.map Char.toUpper
      (listed? upper).orElse fun _ => coded? upper

end Worksheet.Text.CharacterName
