-- Quoted text: a string in quotes, with every character that has no picture of its own
-- written by its code.
import Worksheet.Text.CodePoint
import Worksheet.Text.Printable

namespace Worksheet.Text

/-! ## Hexadecimal digits -/

def hexDigit (n : Nat) : Char :=
  if n % 16 < 10 then Char.ofNat (0x30 + n % 16) else Char.ofNat (0x57 + n % 16)

/-- The last `width` hexadecimal digits of a number. -/
def hexDigits : Nat → Nat → List Char
  | 0, _ => []
  | width + 1, n => hexDigits width (n / 16) ++ [hexDigit n]

theorem length_hexDigits (width n : Nat) : (hexDigits width n).length = width := by
  induction width generalizing n with
  | zero => rfl
  | succ w ih => simp [hexDigits, ih]

/-! ## Quoting -/

/-- The shortest of the three escapes that has room for the code. -/
def codeEscape (n : Nat) : List Char :=
  if n < 0x100 then '\\' :: 'x' :: hexDigits 2 n
  else if n < 0x10000 then '\\' :: 'u' :: hexDigits 4 n
  else '\\' :: 'U' :: hexDigits 8 n

def quoteChar (quote c : Char) : List Char :=
  if c = quote || c = '\\' then ['\\', c]
  else if c = '\n' then ['\\', 'n']
  else if c = '\r' then ['\\', 'r']
  else if c = '\t' then ['\\', 't']
  else if isPrintable c then [c]
  else codeEscape c.toNat

/-- Single quotes, or double quotes when the text holds single quotes and no double ones. -/
def quoteMark (cs : List Char) : Char :=
  if '\'' ∈ cs && '"' ∉ cs then '"' else '\''

def quoteChars (cs : List Char) : List Char :=
  let q := quoteMark cs
  q :: cs.flatMap (quoteChar q) ++ [q]

def quoted (s : String) : String := String.ofList (quoteChars s.toList)

/-- A text in quotes, with the surrogates written by their codes. -/
def quotedPoints (text : Points) : String :=
  let q := quoteMark (text.filterMap CodePoint.toChar?)
  String.ofList (q :: text.flatMap (fun p => match p.toChar? with
    | some c => quoteChar q c
    | none => codeEscape p.val) ++ [q])

/-- Quoted strings between brackets. -/
def quotedList (items : List String) : String :=
  "[" ++ ", ".intercalate (items.map quoted) ++ "]"

end Worksheet.Text
