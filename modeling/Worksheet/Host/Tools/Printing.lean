-- Printing of arguments: escapes that begin with a backslash, and formats with directives.
import Worksheet.Host.Tools.Quoting
import Worksheet.Number.Floating

namespace Worksheet.Host

open Text (Octets)

namespace Printing

/-! ## Manners -/

/-- The printing command comes in two manners: as a part of the shell, and as a tool of its own,
which has more escapes, wider numbers and other words for what is wrong. -/
inductive Manner
  | builtin
  | tool
  deriving DecidableEq, Repr

def Manner.breadth : Manner → Breadth
  | builtin => .double
  | tool => .extended

/-- What is wrong with an argument. -/
inductive Complaint
  | notNumeric (argument : Octets)
  | notAll (argument : Octets)
  | outside (argument : Octets)
  | afterQuoted (rest : Octets)
  deriving DecidableEq, Repr

/-- Why a format cannot be carried out any further. -/
inductive Obstacle
  | unended
  | unknown (directive : Octets)
  | noDigits
  | noCharacter (letter : Char) (digits : Octets)
  | wrongWidth (argument : Octets)
  | wrongPrecision (argument : Octets)
  deriving DecidableEq, Repr

/-! ## Escapes -/

def isOctal (c : Char) : Bool := '0' ≤ c && c ≤ '7'

def octalValue (digits : Octets) : Nat :=
  digits.foldl (fun n c => 8 * n + (c.toNat - '0'.toNat)) 0

def escapes : List (Char × Nat) :=
  [('a', 7), ('b', 8), ('e', 27), ('f', 12), ('n', 10), ('r', 13), ('t', 9), ('v', 11), ('\\', 92)]

/-- What an escape stands for: a text, with what follows it, the end of all output, or nothing. -/
inductive Escape
  | text (text rest : Octets)
  | finish
  | wrong (obstacle : Obstacle)

/-- One escape, after its backslash: the character that it stands for, and what follows it. A
backslash that begins no escape stands for itself. -/
def escape (text : Octets) : Char × Octets :=
  match text with
  | [] => ('\\', [])
  | c :: rest =>
    if isOctal c then
      let digits := (text.take 3).takeWhile isOctal
      (Char.ofNat (octalValue digits % 256), text.drop digits.length)
    else match escapes.lookup c with
      | some code => (Char.ofNat code, rest)
      | none => ('\\', text)

def isHexadecimal (c : Char) : Bool := Floating.digitValue c < 16

/-- The character of a number in base sixteen. Plain characters have no such number. -/
def numberedCharacter (letter : Char) (digits : Octets) : Except Obstacle Octets :=
  let n := Floating.wholeOf 16 digits
  if (n ≤ 0x9f && n ≠ 0x24 && n ≠ 0x40 && n ≠ 0x60) || (0xd800 ≤ n && n ≤ 0xdfff) then
    .error (.noCharacter letter (digits.map Char.toLower))
  else if 0x10FFFF < n then .ok ('\\' :: 'U' :: digits.map Char.toUpper)
  else .ok (Octets.ofString (String.ofList [Char.ofNat n]))

/-- One escape as the tool knows it. An octal number in an argument may have a zero more in
front. A character that makes no escape is kept with its backslash. -/
def toolEscape (inArgument : Bool) (text : Octets) : Escape :=
  match text with
  | [] => .text ['\\'] []
  | 'c' :: _ => .finish
  | '"' :: rest => .text ['"'] rest
  | 'x' :: rest =>
    let ds := (rest.take 2).takeWhile isHexadecimal
    if ds.isEmpty then .wrong .noDigits
    else .text [Char.ofNat (Floating.wholeOf 16 ds)] (rest.drop ds.length)
  | c :: rest =>
    if c = 'u' || c = 'U' then
      let count := if c = 'u' then 4 else 8
      let ds := (rest.take count).takeWhile isHexadecimal
      if ds.length < count then .wrong .noDigits
      else match numberedCharacter c ds with
        | .ok text => .text text (rest.drop count)
        | .error o => .wrong o
    else if isOctal c then
      let (c, rest) := if inArgument && c = '0' then
          let ds := (rest.take 3).takeWhile isOctal
          (Char.ofNat (octalValue ds % 256), rest.drop ds.length)
        else escape text
      .text [c] rest
    else match escapes.lookup c with
      | some code => .text [Char.ofNat code] rest
      | none => .text ['\\', c] rest

/-- One escape in an argument as the shell knows it. -/
def builtinEscape (text : Octets) : Escape :=
  match text with
  | 'c' :: _ => .finish
  | text =>
    let text := match text with
      | '0' :: d :: rest => if isOctal d then d :: rest else text
      | text => text
    let (c, rest) := escape text
    .text [c] rest

/-- A text with its escapes carried out: what has been made (latest first), whether the output ends
with it, and what is wrong in it. -/
structure Unescaped where
  text : Octets
  stopped : Bool
  obstacle : Option Obstacle

def unescapeAfter (read : Octets → Escape) : Nat → Octets → Octets → Unescaped
  | 0, found, _ => ⟨found.reverse, false, none⟩
  | n + 1, found, text =>
    match text with
    | [] => ⟨found.reverse, false, none⟩
    | '\\' :: rest =>
      match read rest with
      | .text made rest => unescapeAfter read n (made.reverse ++ found) rest
      | .finish => ⟨found.reverse, true, none⟩
      | .wrong o => ⟨found.reverse, true, some o⟩
    | c :: rest => unescapeAfter read n (c :: found) rest

def unescape (m : Manner) (text : Octets) : Unescaped :=
  unescapeAfter (if m = .tool then toolEscape true else builtinEscape) (text.length + 1) [] text

/-- The arguments with blanks between them and a line feed behind, their escapes carried out. -/
def echo : List Octets → Octets
  | [] => ['\n']
  | [text] =>
    let u := unescape .builtin text
    if u.stopped then u.text else u.text ++ ['\n']
  | text :: rest =>
    let u := unescape .builtin text
    if u.stopped then u.text else u.text ++ ' ' :: echo rest

/-! ## Numbers -/

def numberIn (text : Octets) : Nat :=
  text.foldl (fun n c => 10 * n + (c.toNat - '0'.toNat)) 0

/-- A whole number at the front of a text, in the base that its first digits tell, with what follows
it. Where there is none, nothing is used up. -/
def wholeAt (text : Octets) : Int × Octets :=
  let body := text.dropWhile fun c => c = ' ' || (9 ≤ c.toNat && c.toNat ≤ 13)
  let (negative, body) := match body with
    | '-' :: r => (true, r)
    | '+' :: r => (false, r)
    | r => (false, r)
  let isIn (base : Nat) (c : Char) : Bool := Floating.digitValue c < base
  let (base, body) := match body with
    | '0' :: x :: d :: r =>
      if (x = 'x' || x = 'X') && isIn 16 d then (16, d :: r) else (8, '0' :: x :: d :: r)
    | '0' :: r => (8, '0' :: r)
    | r => (10, r)
  let run := body.takeWhile (isIn base)
  if run.isEmpty then (0, text)
  else
    let n : Int := Floating.wholeOf base run
    (if negative then -n else n, body.drop run.length)

/-- What is wrong with an argument of which so much is left. -/
def faultOf (argument rest : Octets) (outside : Bool) : Option Complaint :=
  if rest.isEmpty then (if outside then some (.outside argument) else none)
  else if rest.length = argument.length then some (.notNumeric argument)
  else some (.notAll argument)

/-- An argument that begins with a quote stands for the code of the character after it, which for
the tool can take several octets. -/
def quotedCode (m : Manner) (argument : Octets) : Option (Nat × Option Complaint) :=
  match argument with
  | q :: c :: rest =>
    if q = '"' || q = '\'' then
      if m = .builtin then some (c.toNat, none)
      else
        let width := (Quoting.characterAt (c :: rest)).1
        let code := match (Octets.spelled ((c :: rest).take width)).toList with
          | [x] => if width = 1 then c.toNat else x.toNat
          | _ => c.toNat
        let rest := rest.drop (width - 1)
        some (code, if rest.isEmpty then none else some (.afterQuoted rest))
    else none
  | _ => none

/-- A number argument in a word of 64 bits. -/
def readWhole (m : Manner) (signed : Bool) (argument : Octets) : Int × Option Complaint :=
  match quotedCode m argument with
  | some (code, wrong) => (code, wrong)
  | none =>
    let (n, rest) := wholeAt argument
    let low : Int := if signed then -9223372036854775808 else -18446744073709551615
    let high : Int := if signed then 9223372036854775807 else 18446744073709551615
    let value := if n < low then (if signed then low else high) else if high < n then high else n
    (value, faultOf argument rest (n < low || high < n))

/-- A number argument that need not be whole. -/
def readFloating (m : Manner) (argument : Octets) : Floating × Option Complaint :=
  match quotedCode m argument with
  | some (code, wrong) => (.ofNat m.breadth code, wrong)
  | none =>
    let r := Floating.read m.breadth argument
    (r.value, faultOf argument r.rest r.outside)

/-! ## Directives -/

structure Directive where
  left : Bool
  zero : Bool
  plus : Bool
  blank : Bool
  alternate : Bool
  width : Nat
  precision : Option Nat
  deriving Repr

def pad (d : Directive) (body : Octets) : Octets :=
  let fill := List.replicate (d.width - body.length) ' '
  if d.left then body ++ fill else fill ++ body

/-- Digits of a number in a base up to sixteen. -/
def digits (base n : Nat) (upper : Bool) : Octets :=
  let ds := Nat.toDigits base n
  if upper then ds.map Char.toUpper else ds

def zeroFilled (d : Directive) (sign body : Octets) : Octets :=
  if d.zero && !d.left then
    sign ++ List.replicate (d.width - sign.length - body.length) '0' ++ body
  else pad d (sign ++ body)

/-- A whole number with its sign, filled up to the precision, or with zeros up to the width. With no
digits at all asked for, zero has none. -/
def padNumber (d : Directive) (sign body : Octets) : Octets :=
  match d.precision with
  | some p =>
    let body := if p = 0 && body = ['0'] then [] else body
    pad d (sign ++ List.replicate (p - body.length) '0' ++ body)
  | none => zeroFilled d sign body

def signOf (d : Directive) (negative : Bool) : Octets :=
  if negative then ['-'] else if d.plus then ['+'] else if d.blank then [' '] else []

/-- Negative numbers are written without a sign as words of 64 bits. -/
def unsigned (n : Int) : Nat := (n % 18446744073709551616).toNat

/-- The form that a letter stands for. -/
def formOf? (letter : Char) : Option Floating.Form :=
  match letter.toLower with
  | 'f' => some .fixed
  | 'e' => some .power
  | 'g' => some .general
  | 'a' => some .hexadecimal
  | _ => none

/-- A number that need not be whole. Zeros are put behind the mark of base sixteen, and none before
a word. -/
def floatingText (b : Breadth) (d : Directive) (form : Floating.Form) (upper : Bool) (x : Floating) :
    Octets :=
  let body := Floating.digitsIn b form d.precision d.alternate x
  let body := if upper then body.map Char.toUpper else body
  let sign := signOf d x.isNegative
  if !x.isFinite then pad d (sign ++ body)
  else if form = .hexadecimal then zeroFilled d (sign ++ body.take 2) (body.drop 2)
  else zeroFilled d sign body

/-- Octal numbers in the other form begin with a zero. -/
def octalText (d : Directive) (n : Nat) : Octets :=
  let body := digits 8 n false
  let body := match d.precision with
    | some p =>
      List.replicate (p - body.length) '0' ++ (if p = 0 && n = 0 then [] else body)
    | none => body
  let body := if d.alternate && body.head? ≠ some '0' then '0' :: body else body
  if d.precision.isSome then pad d body else zeroFilled d [] body

/-- What one directive prints, with what is wrong with its argument. -/
structure Printed where
  text : Unescaped
  wrong : Option Complaint

def Printed.ofText (text : Octets) : Printed := ⟨⟨text, false, none⟩, none⟩

/-- What one directive prints; nothing if there is no such directive. -/
def directive (m : Manner) (d : Directive) (kind : Char) (argument : Octets) : Option Printed :=
  let whole (signed : Bool) (write : Int → Octets) : Option Printed :=
    let (n, wrong) := readWhole m signed argument
    some ⟨⟨write n, false, none⟩, wrong⟩
  let cut (text : Octets) : Octets := match d.precision with
    | some p => text.take p
    | none => text
  let decimal (n : Int) : Octets := padNumber d (signOf d (n < 0)) (digits 10 n.natAbs false)
  match kind with
  | 's' => some (.ofText (pad d (cut argument)))
  | 'b' =>
    let u := unescape m argument
    some ⟨{ u with text := pad d (cut u.text) }, none⟩
  | 'q' => if m = .tool then some (.ofText (Quoting.bare argument)) else none
  | 'c' => some (.ofText (pad d [argument.headD (Char.ofNat 0)]))
  | 'd' => whole true decimal
  | 'i' => whole true decimal
  | 'u' => whole false fun n => padNumber d [] (digits 10 (unsigned n) false)
  | 'o' => whole false fun n => octalText d (unsigned n)
  | 'x' => whole false fun n =>
      padNumber d (if d.alternate && n ≠ 0 then ['0', 'x'] else []) (digits 16 (unsigned n) false)
  | 'X' => whole false fun n =>
      padNumber d (if d.alternate && n ≠ 0 then ['0', 'X'] else []) (digits 16 (unsigned n) true)
  | kind =>
    (formOf? kind).map fun form =>
      let (x, wrong) := readFloating m argument
      ⟨⟨floatingText m.breadth d form kind.isUpper x, false, none⟩, wrong⟩

/-! ## Formats -/

/-- The state of a format: the arguments left and whether one has been asked for, what has been
printed (latest first), the complaints, whether the printing has ended, and what hinders it. -/
structure Formatting where
  arguments : List Octets
  used : Bool
  printed : Octets
  complaints : List Complaint
  stopped : Bool
  obstacle : Option Obstacle

/-- Nothing more can be printed. -/
def Formatting.refuse (f : Formatting) (o : Obstacle) : Formatting :=
  { f with stopped := true, obstacle := some o }

def Formatting.next (f : Formatting) : Octets × Formatting :=
  match f.arguments with
  | [] => ([], { f with used := true })
  | a :: rest => (a, { f with arguments := rest, used := true })

def Formatting.print (f : Formatting) (text : Octets) : Formatting :=
  { f with printed := text.reverse ++ f.printed }

def Formatting.complain (f : Formatting) (wrong : Option Complaint) : Formatting :=
  { f with complaints := f.complaints ++ wrong.toList }

def flagsOf (flags : Octets) : Directive :=
  ⟨flags.contains '-', flags.contains '0', flags.contains '+', flags.contains ' ',
    flags.contains '#', 0, none⟩

/-- Numbers that a width can be. -/
def isWord (n : Int) : Bool := -2147483648 ≤ n && n ≤ 2147483647

/-- A number in a directive, which may be taken from the arguments. The shell makes a word of 32
bits of it; the tool refuses what is none. -/
def sizeIn (m : Manner) (f : Formatting) (refusal : Octets → Obstacle) (anyLow : Bool)
    (text : Octets) : Int × Octets × Formatting :=
  match text with
  | '*' :: rest =>
    let (a, f) := f.next
    let (n, wrong) := readWhole m true a
    let f := f.complain wrong
    if m = .builtin then (n.bmod 4294967296, rest, f)
    else if isWord n || (anyLow && n < 0) then (n, rest, f)
    else (0, rest, f.refuse (refusal a))
  | _ =>
    let run := text.takeWhile Char.isDigit
    (numberIn run, text.drop run.length, f)

/-- Letters that tell the size of a number; the tool passes over them. -/
def isLengthLetter (c : Char) : Bool := "hlLjzt".toList.contains c

/-- Flags may stand in any number before a directive; the tool has some that change nothing. -/
def isFlag (m : Manner) (c : Char) : Bool :=
  "#-+ 0".toList.contains c || m = .tool && (c = 'I' || c = '\'')

/-- Which directives the tool lets stand behind some flags, and whether a precision can be given.
Those for escaped and for quoted texts take nothing. -/
def isAllowed (flags : Octets) (bare pointed : Bool) (kind : Char) : Bool :=
  let barred : List (Bool × String) :=
    [(flags.any fun c => c = 'I' || c = '\'', "aAceEosxX"), (flags.contains '#', "cdisu"),
      (flags.contains '0', "cs"), (pointed, "c"), (!bare, "bq")]
  !barred.any fun (set, kinds) => set && kinds.toList.contains kind

/-- One directive, after its percent sign. A negative width puts the text to the left, and a
negative precision is none. -/
def applyDirective (m : Manner) (f : Formatting) (text : Octets) : Formatting × Octets :=
  let flags := text.takeWhile (isFlag m)
  let (width, rest, f) := sizeIn m f .wrongWidth false (text.drop flags.length)
  let (precision, pointed, rest, f) := match rest with
    | '.' :: rest =>
      let (p, rest, f) := sizeIn m f .wrongPrecision true rest
      (if p < 0 then none else some p.toNat, true, rest, f)
    | rest => (none, false, rest, f)
  let plain := flagsOf flags
  let d := { plain with
    width := width.natAbs, left := plain.left || width < 0, precision := precision }
  let isBare : Bool := match text with
    | 'b' :: _ => true
    | 'q' :: _ => true
    | _ => false
  let rest := if m = .tool then rest.dropWhile isLengthLetter else rest
  if f.obstacle.isSome then (f, [])
  else match rest with
    | [] => (f.refuse (if m = .tool then .unknown ('%' :: text) else .unended), [])
    | kind :: rest =>
      let unknown := f.refuse (.unknown ('%' :: text.take (text.length - rest.length)))
      if m = .tool && !isAllowed flags isBare pointed kind then (unknown, rest)
      else
        let (a, f') := f.next
        match directive m d kind a with
        | none => (unknown, rest)
        | some p =>
          ({ (f'.complain p.wrong).print p.text.text with
            stopped := p.text.stopped, obstacle := p.text.obstacle }, rest)

/-- An escape of a format, after its backslash. -/
def formatEscape (m : Manner) (f : Formatting) (text : Octets) : Formatting × Octets :=
  if m = .builtin then
    let (c, rest) := escape text
    (f.print [c], rest)
  else match toolEscape false text with
    | .text made rest => (f.print made, rest)
    | .finish => ({ f with stopped := true }, [])
    | .wrong o => (f.refuse o, [])

/-- One pass over a format. -/
def formatOnce (m : Manner) : Nat → Formatting → Octets → Formatting
  | 0, f, _ => f
  | n + 1, f, text =>
    if f.stopped then f
    else match text with
      | [] => f
      | '\\' :: rest =>
        let (f, rest) := formatEscape m f rest
        formatOnce m n f rest
      | '%' :: '%' :: rest => formatOnce m n (f.print ['%']) rest
      | '%' :: rest =>
        let (f, rest) := applyDirective m f rest
        formatOnce m n f rest
      | c :: rest => formatOnce m n (f.print [c]) rest

/-- A format is used again as long as it takes arguments and there are some. -/
def formatAll (m : Manner) (format : Octets) : Nat → Formatting → Formatting
  | 0, f => f
  | n + 1, f =>
    let f := formatOnce m (format.length + 1) { f with used := false } format
    if f.stopped || !f.used || f.arguments.isEmpty then f else formatAll m format n f

/-- What comes of printing arguments in a format. -/
def printf (m : Manner) (format : Octets) (arguments : List Octets) : Formatting :=
  formatAll m format (arguments.length + 1) ⟨arguments, false, [], [], false, none⟩

end Printing

end Worksheet.Host
