-- The tool that tells the time.
import Worksheet.Host.Tools.Calendar
import Worksheet.Host.Tools.Files

namespace Worksheet.Host.Tools

open Text (Octets)

namespace Dating

/-- How a part of a time is changed: letters to capitals, what fills a number, and the least width.
-/
structure Manner where
  capitals : Bool
  fill : Option Char
  width : Nat

/-- The signs before a part say how it is changed. -/
def mannerOf (signs width : Octets) : Manner :=
  let fill := (signs.filter fun c => "-_0".toList.contains c).getLast?
  ⟨signs.contains '^', fill, (digits? width).getD 0⟩

/-- A number without what fills it. -/
def body (text : Octets) : Octets :=
  let rest := text.dropWhile fun c => c = '0' || c = ' '
  if rest.isEmpty then ['0'] else rest

def changed (m : Manner) (text : Octets) : Octets :=
  let text := if m.capitals then text.map Char.toUpper else text
  let isNumber := text.all fun c => c.isDigit || c = ' '
  match m.fill with
  | some '-' => if isNumber then body text else text
  | some fill =>
    let sign := if fill = '_' then ' ' else fill
    if isNumber then Moment.filled (max m.width text.length) sign (body text)
    else Moment.filled m.width sign text
  | none =>
    if isNumber && text.head? ≠ some ' ' then Moment.filled m.width '0' text
    else Moment.filled m.width ' ' text

/-- A part of a time, or of the count of seconds. -/
def part (time : Int) (letter : Char) : Option Octets :=
  match letter with
  | '%' => some ['%']
  | 'n' => some ['\n']
  | 't' => some ['\t']
  | 's' => some (Octets.ofInt (time / 1000000000))
  | 'N' => some (Moment.number 9 (time % 1000000000).toNat)
  | c => (Moment.ofTime time).part c

/-- A time in a format. What is no part of a time stands for itself. -/
def written (time : Int) : Nat → Octets → Octets
  | 0, _ => []
  | _ + 1, [] => []
  | n + 1, '%' :: rest =>
    let signs := rest.takeWhile fun c => "-_0^#".toList.contains c
    let width := (rest.drop signs.length).takeWhile Char.isDigit
    match rest.drop (signs.length + width.length) with
    | [] => '%' :: rest
    | c :: more =>
      match part time c with
      | some text => changed (mannerOf signs width) text ++ written time n more
      | none => '%' :: signs ++ width ++ c :: written time n more
  | n + 1, c :: rest => c :: written time n rest

/-- The usual format, and those that are asked for by an option. -/
def formatOf (o : Options) : Octets :=
  if o.has "R" then word "%a, %d %b %Y %H:%M:%S %z"
  else if o.has "I" then
    match ((o.value? "I").getD []).spelled with
    | "hours" => word "%Y-%m-%dT%H+00:00"
    | "minutes" => word "%Y-%m-%dT%H:%M+00:00"
    | "seconds" => word "%Y-%m-%dT%H:%M:%S+00:00"
    | "ns" => word "%Y-%m-%dT%H:%M:%S,%N+00:00"
    | _ => word "%Y-%m-%d"
  else word "%a %b %e %H:%M:%S %Z %Y"

end Dating

/-- Tells the present time, a stated one, or that of a file. -/
def date : Tool := fun i => do
  let o ← options (grammar "d:f:I::r:Rs:u" [("date=", "d"), ("file=", "f"), ("iso-8601?", "I"),
    ("reference=", "r"), ("rfc-email", "R"), ("rfc-2822", "R"), ("set=", "s"), ("utc", "u"),
    ("universal", "u"), ("uct", "u")]) i
  let now : Int ← Task.call .clock
  let time : Int ← match o.value? "d", o.value? "r" with
    | some text, _ =>
      match Moment.ofWords? now text with
      | some time => pure time
      | none => fail i 1 ("invalid date " ++ inQuotes text)
    | none, some name => do
      match ← Task.call (.modified true name) with
      | .ok time => pure time
      | .error e => fail i 1 (bare name ++ ": " ++ e.text)
    | none, none => pure now
  let format ← match o.operands with
    | [] => pure (Dating.formatOf o)
    | ['+' :: format] => pure format
    | [text] => fail i 1 ("invalid date " ++ inQuotes text)
    | _ :: extra :: _ => misuse i 1 ("extra operand " ++ inQuotes extra)
  put i 1 (Dating.written time (format.length + 1) format ++ ['\n'])
  return 0

end Worksheet.Host.Tools
