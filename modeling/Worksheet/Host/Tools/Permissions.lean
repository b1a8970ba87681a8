-- The tool that changes modes.
import Worksheet.Host.Tools.Files

namespace Worksheet.Host.Tools

open Text (Octets)

/-- Words that begin like an option and are modes all the same. The flag says whether there is
one. -/
def behindMode (words : List Octets) : Bool × List Octets :=
  match words with
  | ('-' :: c :: more) :: rest =>
    if "rwxXstugo0123456789".toList.contains c then
      (true, word "--" :: ('-' :: c :: more) :: rest)
    else (false, words)
  | words => (false, words)

/-- How modes are changed: the changes, those of the mask that count, and whether a new mode that
the mask has held back is told of. -/
structure ModeChange where
  changes : List Modes.Change
  fixed : Option Mode
  mask : Mode
  surprising : Bool

/-- Tells of a mode that has been changed, or has been one before. -/
def announceMode (i : Invocation) (o : Options) (name : Octets) (old new : Mode) (good : Bool) :
    Task Unit := do
  let shown (mode : Mode) : String :=
    (Modes.octal 4 (mode % 4096)).spelled ++ " (" ++ (Modes.letters mode).spelled ++ ")"
  let changed := old % 4096 ≠ new % 4096
  if o.lastOf ["c", "v"] = some "v" || (o.has "c" && good && changed) then
    put i 1 (Octets.ofString ((if !good then
        "failed to change mode of " ++ inPlainQuotes name ++ " from " ++ shown old ++ " to " ++ shown new
      else if changed then
        "mode of " ++ inPlainQuotes name ++ " changed from " ++ shown old ++ " to " ++ shown new
      else "mode of " ++ inPlainQuotes name ++ " retained as " ++ shown old) ++ "\n"))

/-- Changes the mode of one file. -/
def changeMode (i : Invocation) (o : Options) (c : ModeChange) (name : Octets) : Task Bool := do
  match ← Task.call (.mode true name) with
  | .error e =>
    let dangling := (← Task.call (.inspect name)).toBool
    if !o.has "f" then
      complain i (if dangling then "cannot operate on dangling symlink " ++ inPlainQuotes name
        else "cannot access " ++ inPlainQuotes name ++ ": " ++ e.text)
    return false
  | .ok old =>
    let isTree ← isDirectory name
    let new := (c.fixed.map (· % 4096)).getD (Modes.apply isTree c.mask old c.changes)
    let good : Bool ← match ← setMode name new with
      | .ok () => pure true
      | .error e =>
        if !o.has "f" then
          complain i ("changing permissions of " ++ inPlainQuotes name ++ ": " ++ e.text)
        pure false
    announceMode i o name old new good
    let expected := Modes.apply isTree 0 old c.changes
    if c.surprising && good && Modes.less new expected ≠ 0 then
      complain i (bare name ++ ": new permissions are " ++ (Modes.letters new).spelled ++ ", not " ++
        (Modes.letters expected).spelled)
      return false
    return good

/-- Changes the modes of a tree, each directory before what is in it. Links in it are left alone. -/
def changeModes (i : Invocation) (o : Options) (c : ModeChange) : Nat → Octets → Task Bool
  | 0, _ => pure true
  | n + 1, name => do
    let good ← changeMode i o c name
    match ← Task.call (.inspect name) with
    | .ok .directory =>
      match ← Task.call (.list name) with
      | .error e =>
        if !o.has "f" then
          complain i ("cannot read directory " ++ inPlainQuotes name ++ ": " ++ e.text)
        return false
      | .ok names =>
        let below ← forEach (fun inside => do
          match ← Task.call (.inspect (under name inside)) with
          | .ok .link => return true
          | _ => changeModes i o c n (under name inside)) names
        return good && below
    | _ => return good

def chmod : Tool := fun i => do
  let (isOption, words) := behindMode i.words
  let o ← options (grammar "cfRv" [("changes", "c"), ("quiet", "f"), ("silent", "f"),
    ("recursive", "R"), ("verbose", "v"), ("reference=", "M"), ("preserve-root", "P"),
    ("no-preserve-root", "N")]) { i with words := words }
  let (mode, names) : Octets × List Octets := match o.value? "M", o.operands with
    | some _, names => ([], names)
    | none, mode :: names => (mode, names)
    | none, [] => ([], [])
  if names.isEmpty then
    match o.operands with
    | m :: _ => misuse i 1 ("missing operand after " ++ inQuotes m)
    | [] => misuse i 1 "missing operand"
  let fixed : Option Mode ← match o.value? "M" with
    | none => pure none
    | some r =>
      match ← Task.call (.mode true r) with
      | .ok mode => pure (some mode)
      | .error e => fail i 1 ("failed to get attributes of " ++ inPlainQuotes r ++ ": " ++ e.text)
  let changes ← match Modes.changes? mode, fixed with
    | some changes, _ => pure changes
    | none, some _ => pure []
    | none, none => misuse i 1 ("invalid mode: " ++ inQuotes mode)
  let c : ModeChange := ⟨changes, fixed, ← Task.call .mask, isOption⟩
  return codeOf (← forEach (fun name =>
    if o.has "R" then changeModes i o c treeDepth name else changeMode i o c name) names)

end Worksheet.Host.Tools
