-- Tools that remove files and directories.
import Worksheet.Host.Tools.Files

namespace Worksheet.Host.Tools

open Text (Octets)

/-- The directories that a path leads through, the deepest first. -/
def parentsOf : Nat → Octets → List Octets
  | 0, _ => []
  | n + 1, path =>
    let parent := directoryName path
    if parent = ['.'] || parent = ['/'] then [] else parent :: parentsOf n parent

def rmdir : Tool := fun i => do
  let o ← options (grammar "pv" [("ignore-fail-on-non-empty", "I"), ("parents", "p"),
    ("verbose", "v")]) i
  needOperands i o 1
  let removeOne (doing : String) (name : Octets) : Task Bool := do
    announce i o (i.name.spelled ++ ": removing directory, " ++ inPlainQuotes name)
    match ← Task.call (.removeDirectory name) with
    | .error .notEmpty =>
      if o.has "I" then return false
      else told i (doing ++ inPlainQuotes name) (.error .notEmpty)
    | r => told i (doing ++ inPlainQuotes name) r
  let rec removeUp : List Octets → Task Bool
    | [] => pure true
    | name :: rest => do
      if ← removeOne "failed to remove directory " name then removeUp rest else return o.has "I"
  return codeOf (← forEach (fun name => do
    if ← removeOne "failed to remove " name then
      if o.has "p" then removeUp (parentsOf name.length (Way.trimSlashes name)) else return true
    else return o.has "I") o.operands)
/-- Removes a tree. -/
def removeTree (i : Invocation) (o : Options) : Nat → Octets → Task Bool
  | 0, _ => pure false
  | n + 1, name => do
    let failed (e : Errno) : Task Bool := told i ("cannot remove " ++ inPlainQuotes name) (.error e)
    let removeDirectory : Task Bool := do
      match ← Task.call (.removeDirectory name) with
      | .ok () =>
        announce i o ("removed directory " ++ inPlainQuotes name)
        return true
      | .error e => failed e
    match ← Task.call (.inspect name) with
    | .error e =>
      if o.has "f" && (e = .noEntry || e = .notDirectory) then return true else failed e
    | .ok .directory =>
      if o.has "r" then
        let names ← match ← Task.call (.list name) with
          | .ok names => pure names
          | .error _ => pure []
        if o.has "i" && !names.isEmpty then
          if !(← agrees i ("descend into directory " ++ inPlainQuotes name)) then return true
        let good ← forEach (fun c => removeTree i o n (under name c)) names
        if o.has "i" then
          if !(← agrees i ("remove directory " ++ inPlainQuotes name)) then return true
        if good then removeDirectory else return false
      else if o.has "d" then removeDirectory
      else failed .isDirectory
    | .ok kind =>
      if o.has "i" then
        if !(← agrees i ("remove " ++ kindName kind ++ " " ++ inPlainQuotes name)) then return true
      match ← Task.call (.remove name) with
      | .ok () =>
        announce i o ("removed " ++ inPlainQuotes name)
        return true
      | .error e => failed e

def rm : Tool := fun i => do
  let o ← options (grammar "dfiIrRv" [("force", "f"), ("interactive?", "i"), ("one-file-system", "x"),
    ("no-preserve-root", "N"), ("preserve-root?", "P"), ("recursive", "r"), ("dir", "d"),
    ("verbose", "v")]) i
  let o := if o.has "R" then o.choose "r" none else o
  let o := if o.lastOf ["f", "i"] = some "f" then
      { o with chosen := o.chosen.filter fun c => c.1 ≠ "i" }
    else if o.has "i" then { o with chosen := o.chosen.filter fun c => c.1 ≠ "f" }
    else o
  if o.operands.isEmpty then
    if o.has "f" then return 0 else misuse i 1 "missing operand"
  return codeOf (← forEach (fun name => do
    let last := baseName name
    if (last = word "." || last = word "..") && o.has "r" then
      complain i ("refusing to remove '.' or '..' directory: skipping " ++ inPlainQuotes name)
      return false
    else if Way.trimSlashes name = ['/'] && o.has "r" then
      complain i "it is dangerous to operate recursively on '/'"
      complain i "use --no-preserve-root to override this failsafe"
      return false
    else removeTree i o treeDepth name) o.operands)

end Worksheet.Host.Tools
