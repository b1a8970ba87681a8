-- Tools that make files and directories, and give them times and sizes.
import Worksheet.Host.Tools.Calendar
import Worksheet.Host.Tools.Files

namespace Worksheet.Host.Tools

open Text (Octets)

/-! ## Making -/

/-- All names on the way to a path, the shortest first. -/
def wayTo (path : Octets) : List Octets :=
  let parts := Text.split '/' path
  let names := ((List.range parts.length).map fun n => ['/'].intercalate (parts.take (n + 1)))
  names.filter fun p => !p.isEmpty && (p.getLast? ≠ some '/' || p = ['/'])

def makeOne (i : Invocation) (o : Options) (name : Octets) : Task Bool := do
  let good ← told i ("cannot create directory " ++ inQuotes name) (← Task.call (.makeDirectory name))
  if good then announce i o (i.name.spelled ++ ": created directory " ++ inPlainQuotes name)
  return good

/-- Makes a directory and those that are missing on the way. -/
def makeWay (i : Invocation) (o : Options) : List Octets → Task Bool
  | [] => pure true
  | p :: rest => do
    let refuse (e : Errno) : Task Bool :=
      told i ("cannot create directory " ++ inQuotes p) (.error e)
    match ← Task.call (.examine p) with
    | .ok .directory => makeWay i o rest
    | .ok _ => refuse (if rest.isEmpty then .alreadyExists else .notDirectory)
    | .error _ => if ← makeOne i o p then makeWay i o rest else return false

/-- Gives a new file the mode that was asked for. -/
def grantMode (changes : Option (List Modes.Change)) (isTree : Bool) (start : Mode)
    (name : Octets) : Task Unit := do
  match changes with
  | none => pure ()
  | some changes =>
    let mask ← Task.call .mask
    let _ ← setMode name (Modes.apply isTree mask start changes)

/-- The changes that an option asks for a new file; a text has to be a mode. -/
def newMode (i : Invocation) (o : Options) : Task (Option (List Modes.Change)) := do
  match o.value? "m" with
  | none => return none
  | some m =>
    match Modes.changes? m with
    | some changes => return some changes
    | none => fail i 1 ("invalid mode " ++ inQuotes m)

/-- Makes directories. -/
def mkdir : Tool := fun i => do
  let o ← options (grammar "pm:vZ" [("context", "Z"), ("mode=", "m"), ("parents", "p"),
    ("verbose", "v")]) i
  needOperands i o 1
  let changes ← newMode i o
  return codeOf (← forEach (fun name => do
    let way := wayTo name
    let isNew := !(← Task.call (.examine name)).toBool
    let good ← if o.has "p" && !way.isEmpty then makeWay i o way else makeOne i o name
    if good && isNew then grantMode changes true Mode.ofDirectory name
    return good) o.operands)

/-- Makes pipes with names. -/
def mkfifo : Tool := fun i => do
  let o ← options (grammar "m:Z" [("context", "Z"), ("mode=", "m")]) i
  needOperands i o 1
  let changes ← match o.value? "m" with
    | none => pure none
    | some m =>
      match Modes.changes? m with
      | none => fail i 1 "invalid mode"
      | some changes =>
        if 511 < Modes.apply false 0 Mode.ofFile changes then
          fail i 1 "mode must specify only file permission bits"
        pure (some changes)
  return codeOf (← forEach (fun name => do
    let good ← told i ("cannot create fifo " ++ inPlainQuotes name) (← Task.call (.makeFifo name))
    if good then grantMode changes false Mode.ofFile name
    return good) o.operands)

/-! ## Times -/

/-- Gives files the present time, a stated one or that of another file; those that are missing are
made. -/
def touch : Tool := fun i => do
  let o ← options (grammar "acd:fhmr:t:" [("time=", "T"), ("no-create", "c"), ("date=", "d"),
    ("reference=", "r"), ("no-dereference", "h")]) i
  let now : Int ← Task.call .clock
  let given (text : Octets) (found : Option Int) : Task (Option Int) := do
    match found with
    | some time => return some time
    | none => fail i 1 ("invalid date format " ++ inQuotes text)
  let time : Option Int ← match o.value? "t", o.value? "d", o.value? "r" with
    | some t, _, _ => given t (Moment.ofDigits? now t)
    | none, some d, _ => if d = word "now" then pure none else given d (Moment.ofWords? now d)
    | none, none, some r => do
      match ← Task.call (.modified true r) with
      | .ok t => pure (some t)
      | .error e => fail i 1 ("failed to get attributes of " ++ inPlainQuotes r ++ ": " ++ e.text)
    | none, none, none => pure none
  if o.operands.isEmpty then misuse i 1 "missing file operand"
  return codeOf (← forEach (fun name => do
    let setTime : Task (Except Errno Unit) := Task.call (.stamp (!o.has "h") name time)
    let stamped (r : Except Errno Unit) : Task Bool := do
      if o.has "c" && errno? r = some .noEntry then return true
      else told i ("setting times of " ++ inPlainQuotes name) r
    if name = ['-'] then return true
    else if o.has "c" || o.has "h" then stamped (← setTime)
    else match ← Task.call (.touch name) with
      | .ok () => stamped (← setTime)
      | .error .isDirectory => stamped (← setTime)
      | .error e => told i ("cannot touch " ++ inPlainQuotes name) (.error e)) o.operands)

/-! ## Sizes and new names -/

/-- The size that a file of a known size is to have. -/
def sizeFrom (text : Octets) (current : Nat) : Option Nat :=
  let apply (op : Char) (n : Nat) : Option Nat :=
    match op with
    | '+' => some (current + n)
    | '-' => some (current - n)
    | '<' => some (min current n)
    | '>' => some (max current n)
    | '/' => if n = 0 then none else some (current / n * n)
    | '%' => if n = 0 then none else some ((current + n - 1) / n * n)
    | _ => some n
  match text with
  | op :: rest =>
    if "+-<>/%".toList.contains op then (count? rest).bind (apply op)
    else (count? text).bind (apply '=')
  | [] => none

/-- Cuts files off, or fills them up with zeros. -/
def truncate : Tool := fun i => do
  let o ← options (grammar "cor:s:" [("no-create", "c"), ("io-blocks", "o"), ("reference=", "r"),
    ("size=", "s")]) i
  let size ← match o.value? "s", o.value? "r" with
    | none, none => misuse i 1 ("you must specify either " ++ inQuotes (word "--size") ++ " or " ++
        inQuotes (word "--reference"))
    | some text, _ =>
      if (sizeFrom text 0).isNone then fail i 1 ("Invalid number: " ++ inQuotes text)
      pure text
    | none, some r =>
      match ← Task.call (.examine r) with
      | .ok (.regular _ size) => pure (Octets.ofNat size)
      | .ok _ => pure ['0']
      | .error e => fail i 1 ("cannot stat " ++ inPlainQuotes r ++ ": " ++ e.text)
  if o.operands.isEmpty then misuse i 1 "missing file operand"
  return codeOf (← forEach (fun name => do
    let refuse (e : Errno) : Task Bool :=
      told i ("cannot open " ++ inPlainQuotes name ++ " for writing") (.error e)
    let old : Except Errno Octets ← match ← Task.call (.examine name) with
      | .ok (.regular ..) => readInput name
      | .ok .directory => pure (.error .isDirectory)
      | .ok _ => pure (.ok [])
      | .error .noEntry => pure (if o.has "c" then .error .noEntry else .ok [])
      | .error e => pure (.error e)
    match old with
    | .error e => if e = .noEntry && o.has "c" then return true else refuse e
    | .ok text =>
      match ← Task.call (.opened name .fresh) with
      | .error e => refuse e
      | .ok descriptor =>
        let n := (sizeFrom size text.length).getD 0
        let zeros := List.replicate (n - text.length) (Char.ofNat 0)
        let good ← Task.write descriptor (text.take n ++ zeros)
        Task.call (.close descriptor)
        return good) o.operands)

/-- Letters and digits for a number, in so many places. -/
def letterCode (count n : Nat) : Octets :=
  let ds := Nat.toDigits 16 n
  List.replicate (count - ds.length) 'a' ++ ds.drop (ds.length - count)

/-- The first name of a pattern that nothing has yet. -/
def freeName (before after : Octets) (count : Nat) : Nat → Nat → Task Octets
  | 0, k => pure (before ++ letterCode count k ++ after)
  | n + 1, k => do
    let name := before ++ letterCode count k ++ after
    if (← Task.call (.inspect name)).toBool then freeName before after count n (k + 1)
    else return name

/-- Makes a file or a directory with a new name. -/
def mktemp : Tool := fun i => do
  let o ← options (grammar "dp:qtuV" [("directory", "d"), ("quiet", "q"), ("suffix=", "S"),
    ("tmpdir?", "P"), ("dry-run", "u")]) i
  if 1 < o.operands.length then misuse i 1 "too many templates"
  let template := (o.operands[0]?).getD (word "tmp.XXXXXXXXXX")
  let general := ((i.environment.lookup (word "TMPDIR")).filter fun d => !d.isEmpty).getD (word "/tmp")
  let directory : Option Octets :=
    if o.operands.isEmpty then some ((o.value? "p" <|> o.value? "P").getD general)
    else match o.value? "p" <|> o.value? "P" with
      | some d => some d
      | none => if o.has "t" || o.has "P" then some general else none
  let suffix := (o.value? "S").getD []
  let back := template.reverse
  let after := (back.takeWhile (· ≠ 'X')).reverse
  let after := if suffix.isEmpty then after else []
  let marks := ((back.drop after.length).takeWhile (· = 'X')).length
  if marks < 3 then fail i 1 ("too few X's in template " ++ inQuotes template)
  let before := template.take (template.length - after.length - marks)
  let full (n : Octets) : Octets := match directory with
    | some d => under d n
    | none => n
  let name ← freeName (full before) (after ++ suffix) marks 1000 0
  let shown := full template
  let what := if o.has "d" then "directory" else "file"
  let made ← if o.has "u" then pure (.ok ())
    else if o.has "d" then Task.call (.makeDirectory name)
    else Task.call (.touch name)
  match made with
  | .ok () =>
    if !o.has "u" then
      let _ ← setMode name (if o.has "d" then 448 else 384)
    put i 1 (name ++ ['\n'])
    return 0
  | .error e =>
    if !o.has "q" then
      complain i ("failed to create " ++ what ++ " via template " ++ inQuotes shown ++ ": " ++ e.text)
    return 1

/-- Nothing is held back that could be written out. -/
def sync : Tool := fun _ => pure 0

end Worksheet.Host.Tools
