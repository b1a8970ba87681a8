-- The calendar: the parts of a time, and how they are written.
import Worksheet.Host.Tools.Input
import Worksheet.Text.Split

namespace Worksheet.Host.Tools

open Text (Octets)

/-- A time by its parts. Months and days begin with 1, days of the year with 0, and a week with its
Sunday; the time of day is in seconds, and what is left of them in nanoseconds. -/
structure Moment where
  year : Int
  month : Nat
  day : Nat
  yearDay : Nat
  weekDay : Nat
  ofDay : Nat
  fraction : Nat
  deriving DecidableEq, Repr

namespace Moment

/-! ## Days -/

/-- How many days lie before a month, in a year that is not a leap year. -/
def daysBefore : List Nat := [0, 31, 59, 90, 120, 151, 181, 212, 243, 273, 304, 334]

def isLeap (year : Int) : Bool := year % 4 = 0 && (year % 100 ≠ 0 || year % 400 = 0)

def daysIn (year : Int) (month : Nat) : Nat :=
  if month = 2 then (if isLeap year then 29 else 28)
  else if [4, 6, 9, 11].contains month then 30 else 31

/-- Year, month and day of a day that is given by its number from the first day of 1970 on. They are
counted in eras of four hundred years, each of which begins with a March. -/
def dateOf (day : Int) : Int × Nat × Nat :=
  let z := day + 719468
  let era := z / 146097
  let dayOfEra := (z % 146097).toNat
  let yearOfEra := (dayOfEra - dayOfEra / 1460 + dayOfEra / 36524 - dayOfEra / 146096) / 365
  let dayOfYear := dayOfEra - (365 * yearOfEra + yearOfEra / 4 - yearOfEra / 100)
  let shifted := (5 * dayOfYear + 2) / 153
  let month := if shifted < 10 then shifted + 3 else shifted - 9
  (yearOfEra + era * 400 + (if month ≤ 2 then 1 else 0), month,
    dayOfYear - (153 * shifted + 2) / 5 + 1)

/-- The parts of a time in nanoseconds. -/
def ofTime (time : Int) : Moment :=
  let seconds := time / 1000000000
  let (year, month, day) := dateOf (seconds / 86400)
  let leap := if isLeap year && 2 < month then 1 else 0
  ⟨year, month, day, daysBefore.getD (month - 1) 0 + leap + day - 1,
    ((seconds / 86400 + 4) % 7).toNat, (seconds % 86400).toNat, (time % 1000000000).toNat⟩

/-! ## Writing -/

def filled (width : Nat) (fill : Char) (text : Octets) : Octets :=
  List.replicate (width - text.length) fill ++ text

def number (width : Nat) (n : Nat) : Octets := filled width '0' (Octets.ofNat n)

def twoDigits (n : Nat) : Octets := number 2 n

def monthNames : List String :=
  ["January", "February", "March", "April", "May", "June", "July", "August", "September",
    "October", "November", "December"]

def dayNames : List String :=
  ["Sunday", "Monday", "Tuesday", "Wednesday", "Thursday", "Friday", "Saturday"]

def nameIn (names : List String) (n : Nat) : Octets := (names.getD n "").toList

def hour (m : Moment) : Nat := m.ofDay / 3600

def minute (m : Moment) : Nat := m.ofDay / 60 % 60

def second (m : Moment) : Nat := m.ofDay % 60

/-- The hour on a face with twelve of them. -/
def faceHour (m : Moment) : Nat := (m.hour + 11) % 12 + 1

def timeOfDay (m : Moment) : Octets :=
  twoDigits m.hour ++ ':' :: twoDigits m.minute ++ ':' :: twoDigits m.second

def date (m : Moment) : Octets :=
  Octets.ofInt m.year ++ '-' :: twoDigits m.month ++ '-' :: twoDigits m.day

/-- Weekday, month and day, in short. -/
def shortDay (m : Moment) : Octets :=
  (nameIn dayNames m.weekDay).take 3 ++ ' ' :: (nameIn monthNames (m.month - 1)).take 3 ++ ' ' ::
    filled 2 ' ' (Octets.ofNat m.day)

def halfOfDay (m : Moment) : Octets := if m.hour < 12 then ['A', 'M'] else ['P', 'M']

/-- A part of a time by its letter. -/
def part (m : Moment) (letter : Char) : Option Octets :=
  match letter with
  | 'Y' => some (Octets.ofInt m.year)
  | 'y' => some (twoDigits (m.year % 100).toNat)
  | 'C' => some (twoDigits (m.year / 100).toNat)
  | 'm' => some (twoDigits m.month)
  | 'd' => some (twoDigits m.day)
  | 'e' => some (filled 2 ' ' (Octets.ofNat m.day))
  | 'j' => some (number 3 (m.yearDay + 1))
  | 'H' => some (twoDigits m.hour)
  | 'k' => some (filled 2 ' ' (Octets.ofNat m.hour))
  | 'I' => some (twoDigits m.faceHour)
  | 'l' => some (filled 2 ' ' (Octets.ofNat m.faceHour))
  | 'M' => some (twoDigits m.minute)
  | 'S' => some (twoDigits m.second)
  | 'p' => some m.halfOfDay
  | 'a' => some ((nameIn dayNames m.weekDay).take 3)
  | 'A' => some (nameIn dayNames m.weekDay)
  | 'b' => some ((nameIn monthNames (m.month - 1)).take 3)
  | 'h' => some ((nameIn monthNames (m.month - 1)).take 3)
  | 'B' => some (nameIn monthNames (m.month - 1))
  | 'D' => some (twoDigits m.month ++ '/' :: twoDigits m.day ++ '/' ::
      twoDigits (m.year % 100).toNat)
  | 'x' => some (twoDigits m.month ++ '/' :: twoDigits m.day ++ '/' ::
      twoDigits (m.year % 100).toNat)
  | 'F' => some m.date
  | 'T' => some m.timeOfDay
  | 'X' => some m.timeOfDay
  | 'R' => some (twoDigits m.hour ++ ':' :: twoDigits m.minute)
  | 'r' => some (twoDigits m.faceHour ++ ':' :: twoDigits m.minute ++ ':' ::
      twoDigits m.second ++ ' ' :: m.halfOfDay)
  | 'c' => some (m.shortDay ++ ' ' :: m.timeOfDay ++ ' ' :: Octets.ofInt m.year)
  | 'u' => some (Octets.ofNat ((m.weekDay + 6) % 7 + 1))
  | 'w' => some (Octets.ofNat m.weekDay)
  | 'q' => some (Octets.ofNat ((m.month + 2) / 3))
  | 'U' => some (twoDigits ((m.yearDay + 7 - m.weekDay) / 7))
  | 'W' => some (twoDigits ((m.yearDay + 7 - (m.weekDay + 6) % 7) / 7))
  | 'Z' => some "UTC".toList
  | 'z' => some "+0000".toList
  | _ => none

/-! ## Reading -/

def nanoseconds (seconds : Int) : Int := seconds * 1000000000

/-- The number of a day of the calendar, from the first day of 1970 on. -/
def dayNumber (year : Int) (month day : Nat) : Int :=
  let y := if month ≤ 2 then year - 1 else year
  let era := y / 400
  let yearOfEra := y % 400
  let shifted := (month + 9) % 12
  let dayOfYear : Int := (153 * shifted + 2) / 5 + day - 1
  era * 146097 + yearOfEra * 365 + yearOfEra / 4 - yearOfEra / 100 + dayOfYear - 719468

/-- The time in nanoseconds that is given by date and time of day. -/
def timeAt? (year month day hour minute second : Nat) : Option Int :=
  if month = 0 || 12 < month || day = 0 || daysIn year month < day || 23 < hour || 59 < minute ||
      60 < second then none
  else some (nanoseconds (((dayNumber year month day * 24 + hour) * 60 + minute) * 60 + second))

/-- Month, day, hour and minute in pairs of digits, with the year in front, in part or not at all,
and perhaps seconds behind a point. -/
def ofDigits? (now : Int) (text : Octets) : Option Int :=
  let main := text.takeWhile (· ≠ '.')
  let second := match text.drop main.length with
    | [] => some 0
    | _ :: ds => if ds.length = 2 then digits? ds else none
  let number (start count : Nat) : Option Nat := digits? ((main.drop start).take count)
  let parts (year : Option Nat) (rest : Nat) : Option Int := do
    timeAt? (← year) (← number rest 2) (← number (rest + 2) 2) (← number (rest + 4) 2)
      (← number (rest + 6) 2) (← second)
  match main.length with
  | 12 => parts (number 0 4) 4
  | 10 => parts ((number 0 2).map fun y => if y < 69 then 2000 + y else 1900 + y) 2
  | 8 => parts (some (ofTime now).year.toNat) 0
  | _ => none

/-- The nanoseconds of a fraction. -/
def fractionOf? (ds : Octets) : Option Nat :=
  if ds.isEmpty then none else digits? ((ds ++ List.replicate 9 '0').take 9)

/-- Seconds with a fraction, as a number behind a sign. -/
def ofSeconds? (text : Octets) : Option Int := do
  let (negative, ds) : Bool × Octets := match text with
    | '-' :: ds => (true, ds)
    | ds => (false, ds)
  let whole := ds.takeWhile Char.isDigit
  let n ← digits? whole
  let rest ← match ds.drop whole.length with
    | [] => some 0
    | '.' :: ds => fractionOf? ds
    | _ => none
  let size := nanoseconds n + rest
  return if negative then -size else size

/-- A date, with or without a time of day that may have a fraction. -/
def ofDate? (text : Octets) : Option Int := do
  let text := if text.getLast? = some 'Z' then text.dropLast else text
  let main := text.takeWhile (· ≠ '.')
  let shape := String.ofList (main.map fun c => if c.isDigit then '0' else if c = 'T' then ' ' else c)
  let ds := main.filter Char.isDigit
  let number (start count : Nat) : Option Nat := digits? ((ds.drop start).take count)
  let rest ← match text.drop main.length with
    | [] => some 0
    | _ :: fraction => if shape = "0000-00-00 00:00:00" then fractionOf? fraction else none
  let day (hour minute second : Option Nat) : Option Int := do
    timeAt? (← number 0 4) (← number 4 2) (← number 6 2) (← hour) (← minute) (← second)
  let time ← match shape with
    | "0000-00-00" => day (some 0) (some 0) (some 0)
    | "0000-00-00 00:00" => day (number 8 2) (number 10 2) (some 0)
    | "0000-00-00 00:00:00" => day (number 8 2) (number 10 2) (number 12 2)
    | _ => none
  return time + rest

/-- Units of time in seconds. -/
def units : List (String × Int) :=
  [("sec", 1), ("second", 1), ("min", 60), ("minute", 60), ("hour", 3600), ("day", 86400),
    ("week", 604800), ("fortnight", 1209600)]

/-- The seconds of a unit, which may stand for several of its kind. -/
def unit? (text : Octets) : Option Int :=
  let one := if text.getLast? = some 's' then text.dropLast else text
  units.lookup (String.ofList one)

/-- A number with its sign, or a word for one. -/
def count? (text : Octets) : Option Int :=
  match text with
  | '+' :: ds => (digits? ds).map Int.ofNat
  | '-' :: ds => (digits? ds).map fun n => -(n : Int)
  | ds =>
    if ds = "next".toList then some 1
    else if ds = "last".toList then some (-1)
    else (digits? ds).map Int.ofNat

/-- The seconds from now on that words tell, such as those for two days ago. -/
def distance? : List Octets → Option Int
  | [] => some 0
  | [w] =>
    match String.ofList w with
    | "now" => some 0
    | "today" => some 0
    | "yesterday" => some (-86400)
    | "tomorrow" => some 86400
    | _ => unit? w
  | [w, u] =>
    if u = "ago".toList then (unit? w).map fun size => -size
    else do return (← count? w) * (← unit? u)
  | w :: u :: v :: rest =>
    if v = "ago".toList then do return -(← count? w) * (← unit? u) + (← distance? rest)
    else do return (← count? w) * (← unit? u) + (← distance? (v :: rest))

/-- A time in words: as a number behind a sign, as a date, or by how far it lies from now. -/
def ofWords? (now : Int) (text : Octets) : Option Int :=
  match text with
  | '@' :: rest => ofSeconds? rest
  | _ =>
    match ofDate? text with
    | some time => some time
    | none =>
      let words := (Text.split ' ' text).filter fun w => !w.isEmpty
      if words.isEmpty then none
      else (distance? words).map fun seconds => now + nanoseconds seconds

end Moment

end Worksheet.Host.Tools
