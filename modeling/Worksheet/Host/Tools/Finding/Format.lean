-- Formats in which found files are printed: plain text, escapes, and fields of a file.
import Worksheet.Host.Tools.Description
import Worksheet.Host.Tools.Printing

namespace Worksheet.Host.Tools.Finding

open Text (Octets)

/-- A file that has been come to: the path, how deep it lies, where the search began, and whether
links are followed. -/
structure Visit where
  path : Octets
  depth : Nat
  root : Octets
  followed : Bool
  description : Description

/-! ## Formats -/

/-- How a field is set: flags, the least width, and how much of a text is shown at most. -/
structure Setting where
  flags : List Char
  width : Nat
  precision : Option Nat
  deriving DecidableEq, Repr

/-- A part of a format. What follows the end is not printed. -/
inductive Part
  | text (text : Octets)
  | field (setting : Setting) (letter : Char)
  | time (setting : Setting) (letter : Char)
  | finish
  deriving DecidableEq, Repr

/-- A format that has been read, with what there is to warn of. -/
structure Format where
  parts : List Part
  warnings : List String
  deriving DecidableEq, Repr

def fieldLetters : List Char := "abcdDfFgGhHiklmMnpPsStuUyYZ".toList

/-- Letters behind which another one says what part of a time is meant. -/
def timeLetters : List Char := "ABCT".toList

def plain (c : Char) (f : Format) : Format := { f with parts := .text [c] :: f.parts }

def warned (message : String) (f : Format) : Format := { f with warnings := message :: f.warnings }

/-- A mark between two others, as warnings name it. -/
def shownMark (text : Octets) : String := String.ofList [Char.ofNat 0x60] ++ text.spelled ++ "'"

def reserved (letter : Char) : String :=
  "error: the format directive " ++ shownMark ['%', letter] ++ " is reserved for future use"

/-- Reads a format; fails where it ends too early, or with a field that is kept for later. -/
def Format.read : Nat → Octets → Except String Format
  | 0, _ => .ok ⟨[], []⟩
  | _ + 1, [] => .ok ⟨[], []⟩
  | _ + 1, ['%'] => .error "error: % at end of format string"
  | n + 1, '%' :: '%' :: rest => (read n rest).map (plain '%')
  | n + 1, '%' :: rest =>
    let flags := rest.takeWhile fun c => "-+ 0#".toList.contains c
    let body := rest.drop flags.length
    let width := body.takeWhile Char.isDigit
    let body := body.drop width.length
    let (precision, body) : Option Nat × Octets := match body with
      | '.' :: body =>
        let digits := body.takeWhile Char.isDigit
        (some ((digits? digits).getD 0), body.drop digits.length)
      | body => (none, body)
    let setting : Setting := ⟨flags, (digits? width).getD 0, precision⟩
    match body with
    | [] => .error (reserved (Char.ofNat 0))
    | letter :: more =>
      let whole : Octets := '%' :: rest.take (rest.length - more.length)
      if "\x7b[(".toList.contains letter then .error (reserved letter)
      else if timeLetters.contains letter then
        match more with
        | [] => .ok ⟨[.text whole], ["warning: format directive " ++ shownMark ['%', letter] ++
            " should be followed by another character"]⟩
        | c :: more => (read n more).map fun f => { f with parts := .time setting c :: f.parts }
      else if fieldLetters.contains letter then
        (read n more).map fun f => { f with parts := .field setting letter :: f.parts }
      else if letter = '%' then
        (read n more).map fun f => { f with parts := .text whole.dropLast :: f.parts }
      else (read n more).map fun f =>
        warned ("warning: unrecognized format directive " ++ shownMark ['%', letter])
          { f with parts := .text whole :: f.parts }
  | _ + 1, ['\\'] =>
    .ok ⟨[.text ['\\']], ["warning: escape " ++ shownMark ['\\'] ++ " followed by nothing at all"]⟩
  | _ + 1, '\\' :: 'c' :: _ => .ok ⟨[.finish], []⟩
  | n + 1, '\\' :: c :: rest =>
    if Printing.isOctal c || (c ≠ 'e' && (Printing.escapes.lookup c).isSome) then
      let (made, rest) := Printing.escape (c :: rest)
      (read n rest).map (plain made)
    else (read n rest).map fun f =>
      warned ("warning: unrecognized escape " ++ shownMark ['\\', c])
        { f with parts := .text ['\\', c] :: f.parts }
  | n + 1, c :: rest => (read n rest).map (plain c)

/-! ## Fields -/

/-- A path up to its last slash; a point stands for none. -/
def leading (path : Octets) : Octets :=
  if path.contains '/' then ((path.reverse.dropWhile (· ≠ '/')).drop 1).reverse else ['.']

/-- The last name of a path, with what slashes there are behind it. -/
def lastName (path : Octets) : Octets :=
  let trimmed := (path.reverse.dropWhile (· = '/')).reverse
  if trimmed.isEmpty then path else path.drop (trimmed.length - (shortName trimmed).length)

/-- How much of its blocks a file fills. -/
def sparseness (d : Description) : Octets :=
  if d.size = 0 then (if d.blocks = 0 then ['1'] else ['0'])
  else
    let (digits, scale) := (1024 * d.blocks * 1000000 / d.size, 1000000)
    let whole := digits / scale
    let shown := Moment.filled 6 '0' (Octets.ofNat (digits % scale))
    let kept := (shown.take (6 - (toString whole).length)).reverse.dropWhile (· = '0')
    Octets.ofNat whole ++ (if kept.isEmpty then [] else '.' :: kept.reverse)

/-- What stands for a file behind a percent sign. The letter of what a link leads to is known. -/
def field (v : Visit) (far letter : Char) : Octets :=
  let d := v.description
  match letter with
  | 'p' => v.path
  | 'f' => lastName v.path
  | 'h' => leading v.path
  | 'P' => (v.path.drop v.root.length).dropWhile (· = '/')
  | 'H' => v.root
  | 's' => Octets.ofNat d.size
  | 'd' => Octets.ofNat v.depth
  | 'm' => Modes.octal 1 d.mode
  | 'M' => d.modeText
  | 'y' => [Description.testLetter d.kind]
  | 'Y' => [far]
  | 'l' => d.target
  | 'n' => Octets.ofNat d.links
  | 'u' => "root".toList
  | 'g' => "root".toList
  | 'U' => ['0']
  | 'G' => ['0']
  | 'k' => Octets.ofNat d.blocks
  | 'b' => Octets.ofNat (2 * d.blocks)
  | 'S' => sparseness d
  | 'F' => "overlay".toList
  | _ => []

/-- The fraction of a second has a digit more than it can have. -/
def fractionText (m : Moment) : Octets := '.' :: Moment.number 9 m.fraction ++ ['0']

/-- Day, time and year. -/
def fullMoment (time : Int) : Octets :=
  let m := Moment.ofTime time
  m.shortDay ++ ' ' :: m.timeOfDay ++ fractionText m ++ ' ' :: Octets.ofInt m.year

/-- A part of a time. Seconds are told with their fraction. -/
def timeField (time : Int) (letter : Char) : Octets :=
  let m := Moment.ofTime time
  match letter with
  | '@' => Octets.ofInt (time / 1000000000) ++ fractionText m
  | 'S' => Moment.twoDigits m.second ++ fractionText m
  | 'T' => m.timeOfDay ++ fractionText m
  | 'X' => m.timeOfDay ++ fractionText m
  | '+' => m.date ++ '+' :: m.timeOfDay ++ fractionText m
  | c => (m.part c).getD []

/-- A text in its width. -/
def Setting.put (s : Setting) (text : Octets) : Octets :=
  let text := match s.precision with
    | some n => text.take n
    | none => text
  let fill := List.replicate (s.width - text.length) ' '
  if s.flags.contains '-' then text ++ fill else fill ++ text

/-- A whole number in its width: a sign or zeros stand before it where they are asked for. -/
def Setting.putNumber (s : Setting) (octal : Bool) (digits : Octets) : Octets :=
  let start : Octets := if octal then (if s.flags.contains '#' then ['0'] else [])
    else if s.flags.contains '+' then ['+']
    else if s.flags.contains ' ' then [' '] else []
  let digits := Moment.filled (s.precision.getD 0) '0' digits
  if s.flags.contains '0' && !s.flags.contains '-' && s.precision.isNone then
    start ++ Moment.filled (s.width - start.length) '0' digits
  else { s with precision := none }.put (start ++ digits)

/-- A file in a format. -/
def formatted (v : Visit) (far : Char) : List Part → Octets
  | [] => []
  | .finish :: _ => []
  | .text t :: rest => t ++ formatted v far rest
  | .time s c :: rest => s.put (timeField v.description.modified c) ++ formatted v far rest
  | .field s c :: rest =>
    let shown := if c = 'd' then s.putNumber false (field v far c)
      else if c = 'm' then s.putNumber true (field v far c)
      else if ['a', 'c', 't'].contains c then s.put (fullMoment v.description.modified)
      else s.put (field v far c)
    shown ++ formatted v far rest

end Worksheet.Host.Tools.Finding
