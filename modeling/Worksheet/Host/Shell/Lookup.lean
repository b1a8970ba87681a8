-- Where commands are found: the search path, the table of places that are known, and short names.
import Worksheet.Host.Shell.Parser
import Worksheet.Host.Shell.Signals
import Worksheet.Text.Split

namespace Worksheet.Host.Shell

open Text (Octets)

/-! ## The search path -/

def searchPath (s : State) : Octets := (value? s (word "PATH")).getD []

/-- The search path on which the tools of the system are found in any case. -/
def standardPath : Octets := word "/usr/local/sbin:/usr/local/bin:/usr/sbin:/usr/bin:/sbin:/bin"

/-- The places where a program can be: its own path, or its name in each directory. -/
def candidates (path name : Octets) : List Octets :=
  if name.contains '/' then [name]
  else (Text.split ':' path).map fun d => if d.isEmpty then name else d ++ '/' :: name

/-- The places from the first one with a file on, or why there is none. -/
def locateAmong (e : Errno) : List Octets → Sh (Except Errno (List Octets))
  | [] => return .error e
  | place :: rest => do
    match ← call (.examine place) with
    | .ok (.regular ..) => return .ok (place :: rest)
    | .ok _ => locateAmong .accessDenied rest
    | .error e' => locateAmong (if e' = .noEntry || e' = .notDirectory then e else e') rest

/-- Takes note of a program whose place is known. -/
def noteLocated (name : Octets) : Sh Unit :=
  modify fun s =>
    if s.located.contains name then s else { s with located := s.located ++ [name] }

/-- Where a program is. A name with a slash is a place of its own, which is not looked at. -/
def locate (path name : Octets) : Sh (Except Errno (List Octets)) := do
  if name.contains '/' then return .ok [name]
  match ← locateAmong .noEntry (candidates path name) with
  | .ok places =>
    if path = searchPath (← get) then noteLocated name
    return .ok places
  | .error e =>
    modify fun s => { s with located := s.located.filter (· ≠ name) }
    return .error e

/-- Why a program cannot be run. -/
def runReason (e : Errno) : String :=
  if e = .noEntry || e = .notDirectory then "not found" else e.text

/-! ## Tables -/

/-- The entry of a table for a name. -/
def tableIndex (size : Nat) (name : Octets) : Nat :=
  (16 * (name.head?.map Char.toNat).getD 0 + total (name.map Char.toNat)) % 32768 % size

/-- Names in the order of a table; those with one entry stay as they are. -/
def tableOrder {α : Type} (size : Nat) (name : α → Octets) (items : List α) : List α :=
  items.mergeSort fun a b => tableIndex size (name a) ≤ tableIndex size (name b)

/-- Tells of the places that are known, or learns or forgets some. -/
def hash : Builtin := fun words => do
  let (options, words) ← letters "r" "" words
  if !options.isEmpty then
    modify fun s => { s with located := [] }
    return 0
  else if words.isEmpty then
    let s ← get
    (tableOrder 31 id s.located).forM fun name => do
      match ← locateAmong .noEntry (candidates (searchPath s) name) with
      | .ok (place :: _) => out (place ++ ['\n'])
      | _ => pure ()
    return 0
  else
    let found ← words.mapM fun name => do
      match ← locate (searchPath (← get)) name with
      | .ok _ => return true
      | .error e =>
        complain (name.spelled ++ ": " ++ runReason e)
        return false
    return if found.all id then 0 else 1

/-! ## Short names -/

def aliasLine (entry : Octets × Octets) : Octets := entry.1 ++ '=' :: quote entry.2 ++ ['\n']

/-- Sets short names of commands, or tells of them. -/
def setAliases : Builtin := fun words => do
  if words.isEmpty then
    out ((tableOrder 39 (·.1) (← get).aliases).flatMap aliasLine)
    return 0
  else
    let known ← words.mapM fun w => do
      let name := w.take 1 ++ (w.drop 1).takeWhile (· ≠ '=')
      if name.length < w.length then
        let value := w.drop (name.length + 1)
        modify fun s =>
          if (s.aliases.lookup name).isSome then
            { s with aliases := s.aliases.map fun e => if e.1 = name then (name, value) else e }
          else { s with aliases := s.aliases ++ [(name, value)] }
        return true
      else match (← get).aliases.lookup w with
        | some value =>
          out (aliasLine (w, value))
          return true
        | none =>
          tell ("alias: " ++ w.spelled ++ " not found")
          return false
    return if known.all id then 0 else 1

def unalias : Builtin := fun words => do
  let (options, words) ← letters "a" "" words
  if !options.isEmpty then
    modify fun s => { s with aliases := [] }
    return 0
  else
    let known ← words.mapM fun w => do
      if ((← get).aliases.lookup w).isSome then
        modify fun s => { s with aliases := s.aliases.filter fun e => e.1 ≠ w }
        return true
      else
        tell ("unalias: " ++ w.spelled ++ " not found")
        return false
    return if known.all id then 0 else 1

/-! ## Meanings -/

/-- The commands of the shell that are not special. -/
def plainNames : List String :=
  ["[", "alias", "bg", "cd", "chdir", "command", "echo", "false", "fg", "getopts", "hash", "jobs",
    "kill", "printf", "pwd", "read", "test", "true", "type", "ulimit", "umask", "unalias", "wait"]

/-- Tells what a name stands for as a command, in full or only by the name. -/
def describe (path : Option Octets) (brief : Bool) (name : Octets) : Sh Nat := do
  let s ← get
  let tellOf (long : String) (short : Octets) : Sh Nat := do
    out ((if brief then short else name ++ Octets.ofString long) ++ ['\n'])
    return 0
  if Parser.reserved.contains name.spelled then tellOf " is a shell keyword" name
  else match s.aliases.lookup name with
    | some value =>
      if brief then
        out (word "alias " ++ aliasLine (name, value))
        return 0
      else tellOf (" is an alias for " ++ value.spelled) []
    | none =>
      if (s.functions.lookup name).isSome && path.isNone then tellOf " is a shell function" name
      else if specialNames.contains name.spelled then tellOf " is a special shell builtin" name
      else if plainNames.contains name.spelled then tellOf " is a shell builtin" name
      else
        let missing : Sh Nat := do
          if !brief then out (name ++ word ": not found\n")
          return 127
        if name.contains '/' then
          match ← call (.examine name) with
          | .ok _ => tellOf (" is " ++ name.spelled) name
          | .error _ => missing
        else
          let known := path.isNone && s.located.contains name
          match ← locate (path.getD (searchPath s)) name with
          | .ok (place :: _) =>
            tellOf ((if known then " is a tracked alias for " else " is ") ++ place.spelled) place
          | _ => missing

/-- Tells what names stand for. -/
def describeAll : Builtin := fun words => do
  let codes ← words.mapM (describe none false)
  return if codes.all (· = 0) then 0 else 127

/-- Tells what a name stands for, when only that is asked of a command. -/
def describeOne : Builtin := fun words => do
  let (options, words) ← letters "pvV" "" words
  let asked := options.filter fun o => o.1 ≠ 'p'
  match words with
  | [] => return 0
  | name :: _ =>
    if asked.isEmpty then return 0
    else
      let path := if options.any fun o => o.1 = 'p' then some standardPath else none
      describe path (asked.all fun o => o.1 = 'v') name

end Worksheet.Host.Shell
