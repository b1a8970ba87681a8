-- The program on the command line. It works on a picture of the files that the command line names,
-- and writes those that a command has changed.
import Worksheet.Cli.Commands
import Worksheet.Host.Runner
import Worksheet.Host.Setup

namespace Worksheet

namespace Cli

open Host (Machine)
open Text (Octets)

/-! ## The workbench -/

/-- Where the programs of the system are that run an entry point. -/
def installed : Installation := ⟨"/usr/bin/python3", "/usr/lib/worksheet/launcher.py"⟩

/-- Every source is accepted, and its code does nothing. -/
def idleGenerator : CodeGenerator Machine := fun _ m => (⟨[], .ok [0x4E]⟩, m)

/-- Commands work on a machine of their own. -/
def machineBench : Workbench Machine where
  installation := installed
  tools := ⟨idleGenerator, Machine.runTool, fun m => m.disk, fun d m => { m with disk := d }⟩
  execute encoding := Machine.execute (.ofEncoding encoding)

/-! ## The picture of the disk -/

def placeOf (current : Place) (name : Octets) : Place :=
  Place.settle (if Disk.isAbsolute name then [] else current) (Disk.components name)

/-- The directories on the way to a place, where there are none yet. -/
def withDirectories (place : Place) (d : Disk) : Disk :=
  ((List.range (place.length + 1)).map place.take).foldl (fun d p =>
    if (d.node? p).isSome then d else d.put p (.directory 493 Host.Setup.birth [])) d

/-- All files are as old as the system, so that their bytecode is the same each time. -/
def withFile (place : Place) (content : Text.Bytes) (d : Disk) : Disk :=
  (withDirectories place.dropLast d).put place (.file content 493 Host.Setup.birth 0)

/-- The directory of the system for what is not kept. -/
def scratch : Place := [Octets.ofString "tmp"]

/-- A disk with files that are named from the current directory. -/
def picture (current : Place) (files : List (String × Text.Bytes)) : Disk :=
  files.foldl (fun d (name, content) => withFile (placeOf current (Octets.ofString name)) content d)
    (withDirectories current (Host.Setup.disk current scratch Host.Setup.birth))

/-- The files that a command reads. -/
def filesNamed (a : Arguments) : List String :=
  let source := match a.command with
    | some (.run s _ _) => [s.source]
    | some (.compile s) => [s.source]
    | _ => []
  a.overrides.config.toList ++ source

/-! ## The program -/

def readFiles : List String → IO (List (String × Text.Bytes))
  | [] => pure []
  | name :: rest => do
    let found ← try pure [(name, (← IO.FS.readBinFile name).toList)] catch _ => pure []
    return found ++ (← readFiles rest)

def writeFile (place : Place) (content : Text.Bytes) : IO Unit := do
  let nameOf (p : Place) : String := "/" ++ (Octets.spelled (['/'].intercalate p))
  IO.FS.createDirAll (nameOf place.dropLast)
  IO.FS.writeBinFile (nameOf place) (ByteArray.mk content.toArray)

def performAll (a : Arguments) : IO UInt32 := do
  let current := Disk.components (Octets.ofString (← IO.currentDir).toString)
  let before := picture current (← readFiles (filesNamed a))
  let (result, m) := machineBench.perform a (Machine.ofDisk before)
  for (place, content) in before.changesBelow m.disk [] do writeFile place content
  match result with
  | .ok ending =>
    IO.print ending.stdout.spelled
    IO.eprint ending.stderr.spelled
    return ending.status.toUInt32
  | .error fault =>
    IO.eprintln (fault.className ++ ": " ++ fault.message)
    return 1

end Cli

end Worksheet

def main (words : List String) : IO UInt32 := do
  match Worksheet.Cli.readArguments words with
  | .ok arguments => Worksheet.Cli.performAll arguments
  | .error (.help text) => IO.print text; return 0
  | .error (.usage text) => IO.eprint text; return 2
