-- Commands about where the shell is and what it may do: its directory, the mask of new files, and
-- limits.
import Worksheet.Host.Shell.Signals
import Worksheet.Text.Split

namespace Worksheet.Host.Shell

open Text (Octets)

/-! ## Directories -/

/-- The components of a path as they are kept, latest first, after those of a path with its dots
taken out. -/
def followNames : List Octets → List Octets → List Octets
  | kept, [] => kept
  | kept, name :: rest =>
    if name = ['.'] || name.isEmpty then followNames kept rest
    else if name = ['.', '.'] then followNames (kept.drop 1) rest
    else followNames (name :: kept) rest

/-- The path that is reached from a directory, by the names alone. Exactly two slashes at the start
are kept. -/
def logicalPath (directory path : Octets) : Octets :=
  let doubled (p : Octets) : Bool := match p with
    | '/' :: '/' :: c :: _ => c ≠ '/'
    | ['/', '/'] => true
    | _ => false
  let isWhole := path.head? = some '/'
  let start := if isWhole then [] else followNames [] (Text.split '/' directory)
  let top := if doubled (if isWhole then path else directory) then word "//" else ['/']
  top ++ ['/'].intercalate (followNames start (Text.split '/' path)).reverse

/-- Takes note of the directory, and of the one before. -/
def noteDirectory (directory : Octets) (old : Option Octets) : Sh Unit := do
  match old with
  | some place => assignAs true (word "OLDPWD") place
  | none => pure ()
  modify fun s => { s with directory := directory }
  assignAs true (word "PWD") directory

/-- Goes to a directory; by names, or as the links on the disk lead. The flag says whether that
could be done. -/
def enter (physical : Bool) (path : Octets) : Sh Bool := do
  let s ← get
  let place := if physical then path else logicalPath s.directory path
  match ← call (.enter place) with
  | .error _ => return false
  | .ok () =>
    let reached : Octets ← if physical then call .whereabouts else pure place
    noteDirectory reached (some s.directory)
    return true

/-- Options for paths by names or by links, of which the last one counts. -/
def isPhysical (options : List (Char × Octets)) : Bool :=
  (options.getLast?.map (·.1)) = some 'P'

/-- A path that does not start at a place of its own is looked for in directories. -/
def isSought (path : Octets) : Bool :=
  match path with
  | '/' :: _ => false
  | ['.'] => false
  | '.' :: '/' :: _ => false
  | ['.', '.'] => false
  | '.' :: '.' :: '/' :: _ => false
  | _ => true

/-- Directories in which a path is looked for. -/
def soughtIn (s : State) (path : Octets) : List Octets :=
  match value? s (word "CDPATH") with
  | some places => if isSought path then Text.split ':' places else []
  | none => []

/-- Goes to the first directory that there is among some; the answer is whether it is to be told,
once it has been reached. -/
def enterAmong (physical : Bool) (path : Octets) : List Octets → Sh (Option Bool)
  | [] => do return if ← enter physical path then some false else none
  | d :: rest => do
    let place := if d.isEmpty then path else d ++ '/' :: path
    match ← call (.examine place) with
    | .ok .directory =>
      if ← enter physical place then return some !d.isEmpty else return none
    | _ => enterAmong physical path rest

def changeDirectory : Builtin := fun words => do
  let (options, words) ← letters "LP" "" words
  let s ← get
  let (target, shown) := match words with
    | [] => ((value? s (word "HOME")).getD [], false)
    | w :: _ => if w = ['-'] then ((value? s (word "OLDPWD")).getD [], true) else (w, false)
  let path := if target.isEmpty then ['.'] else target
  match ← enterAmong (isPhysical options) path (soughtIn s path) with
  | none => fatal ("can't cd to " ++ target.spelled)
  | some found =>
    if shown || found then out ((← get).directory ++ ['\n'])
    return 0

def tellDirectory : Builtin := fun words => do
  let (options, _) ← letters "LP" "" words
  let place : Octets ← if isPhysical options then call .whereabouts else pure (← get).directory
  out (place ++ ['\n'])
  return 0

/-! ## The mask of new files -/

/-- The letters of what a class of users may do. -/
def rightsText (rights : Nat) : String :=
  (if rights / 4 % 2 = 1 then "r" else "") ++ (if rights / 2 % 2 = 1 then "w" else "") ++
    (if rights % 2 = 1 then "x" else "")

def octalText (width n : Nat) : String :=
  let ds := Nat.toDigits 8 n
  String.ofList (List.replicate (width - ds.length) '0' ++ ds)

/-- The bits of users, for the letters of classes. -/
def classBits (classes : List Char) : Nat :=
  (if classes.contains 'u' || classes.contains 'a' then 448 else 0) |||
    (if classes.contains 'g' || classes.contains 'a' then 56 else 0) |||
    (if classes.contains 'o' || classes.contains 'a' then 7 else 0)

/-- The bits that letters stand for, in all classes. -/
def rightBits (mode : Nat) (c : Char) : Option Nat :=
  match c with
  | 'r' => some 292
  | 'w' => some 146
  | 'x' => some 73
  | 'X' => some (if mode % 2 = 1 || mode / 8 % 2 = 1 || mode / 64 % 2 = 1 then 73 else 0)
  | 's' => some 0
  | 't' => some 0
  | 'u' => some (mode / 64 % 8 * 73)
  | 'g' => some (mode / 8 % 8 * 73)
  | 'o' => some (mode % 8 * 73)
  | _ => none

/-- Changes a mode by signs and letters, for the classes in front of them. -/
def changeMode (classes : Nat) : Nat → Nat → List Char → Option Nat
  | 0, _, _ => none
  | _ + 1, mode, [] => some mode
  | n + 1, mode, sign :: rest =>
    let letters := rest.takeWhile fun c => !"+-=".toList.contains c
    match letters.mapM (rightBits mode) with
    | none => none
    | some bits =>
      let bits := bits.foldl (· ||| ·) 0 &&& classes
      let next := rest.drop letters.length
      match sign with
      | '+' => changeMode classes n (mode ||| bits) next
      | '-' => changeMode classes n (mode - (mode &&& bits)) next
      | '=' => changeMode classes n ((mode - (mode &&& classes)) ||| bits) next
      | _ => none

/-- A mode after the changes that a text asks for. -/
def modeAfter (mode : Nat) (text : Octets) : Option Nat :=
  (Text.split ',' text).foldl (fun mode clause =>
    match mode with
    | none => none
    | some mode =>
      let classes := clause.takeWhile fun c => "ugoa".toList.contains c
      let signs := clause.drop classes.length
      if signs.isEmpty then none
      else changeMode (if classes.isEmpty then 511 else classBits classes) (signs.length + 1) mode
        signs) (some mode)

/-- Sets the mask of new files. -/
def setMask (mask : Mode) : Sh Unit := call (.setMask mask)

def umask : Builtin := fun words => do
  let (options, words) ← letters "S" "" words
  let mask : Mode ← call .mask
  match words with
  | [] =>
    let granted := 511 - mask % 512
    let text := if options.isEmpty then octalText 4 mask
      else "u=" ++ rightsText (granted / 64) ++ ",g=" ++ rightsText (granted / 8 % 8) ++ ",o=" ++
        rightsText (granted % 8)
    out (Octets.ofString (text ++ "\n"))
  | w :: _ =>
    if w.head?.any Char.isDigit then
      if w.all fun c => '0' ≤ c && c ≤ '7' then setMask ((Printing.octalValue w) % 512)
      else fatal ("Illegal number: " ++ w.spelled)
    else match modeAfter (511 - mask % 512) w with
      | some mode => setMask (511 - mode % 512)
      | none => fatal ("Illegal mode: " ++ w.spelled)
  return 0

/-! ## Limits -/

/-- The resources that can be limited: a letter, a title, what is meant, and the octets of a unit.
-/
def resources : List (Char × String × Resource × Nat) :=
  [('t', "time(seconds)", .time, 1), ('f', "file(blocks)", .fileSize, 512),
    ('d', "data(kbytes)", .data, 1024), ('s', "stack(kbytes)", .stack, 1024),
    ('c', "coredump(blocks)", .core, 512), ('m', "memory(kbytes)", .memory, 1024),
    ('l', "locked memory(kbytes)", .locked, 1024), ('p', "process", .processes, 1),
    ('n', "nofiles", .files, 1), ('v', "vmemory(kbytes)", .space, 1024), ('w', "locks", .locks, 1),
    ('r', "rtprio", .priority, 1)]

/-- A limit as it is told, in its units. -/
def limitText (hard : Bool) (unit : Nat) (limit : Limit) : String :=
  match (if hard then limit.hard else limit.soft) with
  | some n => toString (n / unit)
  | none => "unlimited"

/-- The number of a new limit; nothing stands for no end. Numbers wrap at the size of a word. -/
def newLimit (unit : Nat) (w : Octets) : Sh (Option Nat) := do
  if w = word "unlimited" then return none
  else if w.all Char.isDigit then
    let n := (w.foldl (fun n c => 10 * n + (c.toNat - '0'.toNat)) 0) * unit % 18446744073709551616
    return if n = 18446744073709551615 then none else some n
  else fatal "bad number"

/-- Tells of limits, or sets one. -/
def ulimit : Builtin := fun words => do
  let (options, words) ← letters "HSatfdsmcpnvlwr" "" words
  let given := options.map (·.1)
  let chosen := ((given.filter fun c => c ≠ 'H' && c ≠ 'S' && c ≠ 'a').getLast?).getD 'f'
  let side := (given.filter fun c => c = 'H' || c = 'S').getLast?
  let (resource, unit) := (resources.lookup chosen).elim (Resource.fileSize, 512) fun r => r.2
  match words with
  | [] =>
    if given.contains 'a' then
      resources.forM fun (_, name, resource, unit) => do
        let fill := String.ofList (List.replicate (20 - name.length) ' ')
        out (Octets.ofString (name ++ fill ++ " " ++
          limitText (side = some 'H') unit (← call (.limit resource)) ++ "\n"))
    else
      out (Octets.ofString (limitText (side = some 'H') unit (← call (.limit resource)) ++ "\n"))
    return 0
  | [w] =>
    if given.contains 'a' then fatal "too many arguments"
    let value ← newLimit unit w
    let old : Limit ← call (.limit resource)
    let new : Limit := ⟨if side = some 'H' then old.soft else value,
      if side = some 'S' then old.hard else value⟩
    match ← call (.setLimit resource new) with
    | .ok () => return 0
    | .error e => fatal ("error setting limit: " ++ e.text)
  | _ => fatal "too many arguments"

end Worksheet.Host.Shell
