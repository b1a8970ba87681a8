-- JSON text of a value, one field or item a line, or all on one line.
import Worksheet.Json.Value

namespace Worksheet

namespace Json

/-! ## Strings -/

/-- The characters that have an escape of two letters. -/
def shortEscape? (c : Char) : Option Char :=
  if c = '"' then some '"'
  else if c = '\\' then some '\\'
  else if c = '\n' then some 'n'
  else if c = '\r' then some 'r'
  else if c = '\t' then some 't'
  else if c.toNat = 8 then some 'b'
  else if c.toNat = 12 then some 'f'
  else none

def unitEscape (n : Nat) : List Char := '\\' :: 'u' :: Text.hexDigits 4 n

/-- An escape, and a pair of escapes above U+FFFF. -/
def wideEscape (n : Nat) : List Char :=
  if n < 0x10000 then unitEscape n
  else unitEscape (0xD800 + (n - 0x10000) / 1024) ++ unitEscape (0xDC00 + (n - 0x10000) % 1024)

/-- All but the printable ASCII characters are escaped. -/
def escapeAscii (c : Char) : List Char :=
  match shortEscape? c with
  | some e => ['\\', e]
  | none => if 0x20 ≤ c.toNat && c.toNat < 0x7F then [c] else wideEscape c.toNat

/-- Only control characters are escaped. -/
def escapeControls (c : Char) : List Char :=
  match shortEscape? c with
  | some e => ['\\', e]
  | none => if c.toNat < 0x20 then unitEscape c.toNat else [c]

/-! ## Values -/

/-- How characters and numbers that are not whole are written. -/
structure Style where
  escape : Char → List Char
  real : Double → List Char

/-- ASCII only, with words for the numbers that JSON has none for. -/
def asciiStyle : Style where
  escape := escapeAscii
  real x := match x with
    | .nan => "NaN".toList
    | .infinite negative => if negative then "-Infinity".toList else "Infinity".toList
    | x => x.text.toList

/-- Text as it is, with `null` for the numbers that JSON has none for. -/
def storedStyle : Style where
  escape := escapeControls
  real x := match x with
    | .finite .. => x.storedText.toList
    | _ => "null".toList

def writeString (s : Style) (text : String) : List Char :=
  '"' :: text.toList.flatMap s.escape ++ ['"']

/-- A surrogate has an escape in every style. -/
def writePoints (s : Style) (text : Text.Points) : List Char :=
  '"' :: text.flatMap (fun p => match p.toChar? with
    | some c => s.escape c
    | none => unitEscape p.val) ++ ['"']

def newline (depth : Nat) : List Char := '\n' :: List.replicate (2 * depth) ' '

mutual

/-- A value whose lines are indented by two blanks for each level. -/
def write (s : Style) (depth : Nat) : Json → List Char
  | .null => "null".toList
  | .bool b => (if b then "true" else "false").toList
  | .integer n => (toString n).toList
  | .real x => s.real x
  | .string text => writeString s text
  | .points text => writePoints s text
  | .array [] => ['[', ']']
  | .array (v :: rest) =>
    '[' :: newline (depth + 1) ++ write s (depth + 1) v ++ writeItems s (depth + 1) rest ++
      newline depth ++ [']']
  | .object [] => ['\x7b', '\x7d']
  | .object ((k, v) :: rest) =>
    '\x7b' :: newline (depth + 1) ++ writeString s k ++ ':' :: ' ' :: write s (depth + 1) v ++
      writeFields s (depth + 1) rest ++ newline depth ++ ['\x7d']

def writeItems (s : Style) (depth : Nat) : List Json → List Char
  | [] => []
  | v :: rest => ',' :: newline depth ++ write s depth v ++ writeItems s depth rest

def writeFields (s : Style) (depth : Nat) : List (String × Json) → List Char
  | [] => []
  | (k, v) :: rest =>
    ',' :: newline depth ++ writeString s k ++ ':' :: ' ' :: write s depth v ++
      writeFields s depth rest

end

/-- The text with all line breaks between values left out. -/
def onOneLine (s : Style) (v : Json) : String :=
  String.ofList ((v.write s 0).filter (· ≠ '\n'))

def lines (s : Style) (v : Json) : String := String.ofList (v.write s 0)

end Json

end Worksheet
