-- The tool that puts files where they are used, with a mode of their own.
import Worksheet.Host.Tools.Copying
import Worksheet.Host.Tools.Making

namespace Worksheet.Host.Tools

open Text (Octets)

namespace Installing

/-- The mode of what has been put somewhere. -/
def usualMode : Mode := 493

/-- Makes a directory and those that are missing on the way, and tells of each. -/
def makeAll (i : Invocation) (o : Options) : List Octets → Task Bool
  | [] => pure true
  | p :: rest => do
    match ← Task.call (.examine p) with
    | .ok .directory => makeAll i o rest
    | .ok _ => told i ("cannot create directory " ++ inQuotes p) (.error .alreadyExists)
    | .error _ =>
      match ← Task.call (.makeDirectory p) with
      | .ok () =>
        announce i o (i.name.spelled ++ ": creating directory " ++ inPlainQuotes p)
        makeAll i o rest
      | .error e => told i ("cannot create directory " ++ inQuotes p) (.error e)

/-- Makes directories that all get the mode. -/
def directories (i : Invocation) (o : Options) (mode : Mode) : Task Nat := do
  return codeOf (← forEach (fun name => do
    let good ← makeAll i o (wayTo name)
    if good then
      let _ ← setMode name mode
    return good) o.operands)

end Installing

/-- Copies files and gives them a mode, or makes directories. -/
def install : Tool := fun i => do
  let o ← options (grammar "bcCdDg:m:o:psS:t:TvZ" [("backup?", "b"), ("compare", "C"),
    ("directory", "d"), ("group=", "g"), ("mode=", "m"), ("owner=", "o"),
    ("preserve-timestamps", "p"), ("strip", "s"), ("suffix=", "S"), ("target-directory=", "t"),
    ("no-target-directory", "T"), ("verbose", "v")]) i
  let mode : Mode ← match o.value? "m" with
    | none => pure Installing.usualMode
    | some text =>
      match Modes.changes? text with
      | some changes => pure (Modes.apply (o.has "d") 0 0 changes)
      | none => fail i 1 ("invalid mode " ++ inQuotes text)
  if o.operands.isEmpty then misuse i 1 "missing file operand"
  if o.has "d" then Installing.directories i o mode
  else
    let m : Copying.Manner := {
      moves := false, installs := true, inside := false, trees := false, hard := false
      symbolic := false, following := .always, consent := .given, newer := false, clears := true
      forced := false, keepsTimes := o.has "p", keepsLinks := false
      backups := ← Backups.chosen i o, suffix := Backups.suffix i o, mode := some mode }
    if o.has "D" then
      match o.value? "t", o.operands with
      | some directory, _ =>
        if !(← Installing.makeAll i o (wayTo directory)) then Task.exit 1
      | none, [_, target] =>
        let above := directoryName target
        if !(← isDirectory target) && !(← Installing.makeAll i o (wayTo above)) then Task.exit 1
      | none, _ => pure ()
    match ← Copying.destination i o true with
    | .into directory names =>
      Copying.copyAll i o { m with inside := true }
        (names.map fun name => (name, under directory (baseName name)))
    | .onto source target => Copying.copyAll i o m [(source, target)]

end Worksheet.Host.Tools
