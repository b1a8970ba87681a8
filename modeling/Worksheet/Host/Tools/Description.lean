-- What can be told of a file: its kind, its mode, its size and its time.
import Worksheet.Host.Tools.Calendar
import Worksheet.Host.Tools.Files

namespace Worksheet.Host.Tools

open Text (Octets)

/-- A file as it is described. A link leads to a target. -/
structure Description where
  name : Octets
  kind : FileKind
  mode : Mode
  size : Nat
  links : Nat
  modified : Int
  target : Octets

namespace Description

/-- The size of a directory, of which nothing else is known. -/
def directorySize : Nat := 4096

/-- Describes a name; a link at its end is followed or described itself. -/
def of (follow : Bool) (name : Octets) : Task (Except Errno Description) := do
  match ← (if follow then Task.call (.examine name) else Task.call (.inspect name)) with
  | .error e => return .error e
  | .ok kind =>
    let mode : Mode ← match ← Task.call (.mode follow name) with
      | .ok mode => pure mode
      | .error _ => pure 0
    let modified : Int ← match ← Task.call (.modified follow name) with
      | .ok t => pure t
      | .error _ => pure 0
    let links : Nat ← match ← Task.call (.names follow name) with
      | .ok names => pure names.length
      | .error _ => pure 1
    match kind with
    | .regular _ size => return .ok ⟨name, kind, mode, size, links, modified, []⟩
    | .directory =>
      let inside : Nat ← match ← Task.call (.list name) with
        | .ok names => do
          let found ← names.filterM fun c => do
            return (← Task.call (.inspect (under name c))).toOption == some .directory
          pure found.length
        | .error _ => pure 0
      return .ok ⟨name, kind, mode, directorySize, 2 + inside, modified, []⟩
    | .link =>
      let target : Octets ← match ← Task.call (.readLink name) with
        | .ok t => pure t
        | .error _ => pure []
      return .ok ⟨name, kind, mode, target.length, 1, modified, target⟩
    | kind => return .ok ⟨name, kind, mode, 0, 1, modified, []⟩

/-- The letter of a kind among tests. -/
def testLetter : FileKind → Char
  | .directory => 'd'
  | .regular .. => 'f'
  | .device => 'c'
  | .link => 'l'
  | .fifo => 'p'

/-- The letter of a kind before a mode. -/
def modeLetter (kind : FileKind) : Char :=
  match kind with
  | .regular .. => '-'
  | kind => testLetter kind

/-- The kind and the mode in letters. -/
def modeText (d : Description) : Octets := modeLetter d.kind :: Modes.letters d.mode

/-- How many blocks of a thousand octets a file takes. -/
def blocks (d : Description) : Nat :=
  match d.kind with
  | .regular .. => (d.size + 4095) / 4096 * 4
  | .directory => 4
  | _ => 0

/-- The mark behind a name. -/
def suffix (executables : Bool) : FileKind → Octets
  | .directory => ['/']
  | .regular true _ => if executables then ['*'] else []
  | .link => ['@']
  | .fifo => ['|']
  | _ => []

/-! ## Times -/

/-- Times this long ago, half a mean year in seconds, are told with their year. -/
def recentSpan : Int := 15778476

/-- Month and day, with the time of day or, for a time long ago or to come, the year. -/
def timeText (now modified : Int) : Octets :=
  let m := Moment.ofTime modified
  let day := (Moment.nameIn Moment.monthNames (m.month - 1)).take 3 ++ ' ' ::
    Moment.filled 2 ' ' (Octets.ofNat m.day) ++ [' ']
  if modified ≤ now && now - recentSpan * 1000000000 < modified then
    day ++ Moment.twoDigits m.hour ++ ':' :: Moment.twoDigits m.minute
  else day ++ Moment.filled 5 ' ' (Octets.ofInt m.year)

/-- Date and time in full. -/
def fullTime (modified : Int) : Octets :=
  let m := Moment.ofTime modified
  m.date ++ ' ' :: m.timeOfDay ++ '.' :: Moment.number 9 m.fraction ++ word " +0000"

end Description

end Worksheet.Host.Tools
