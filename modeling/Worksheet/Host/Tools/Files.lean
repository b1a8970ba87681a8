-- What tools that deal with files have in common.
import Worksheet.Host.Program
import Worksheet.Host.Tools.Input
import Worksheet.Host.Tools.Modes
import Worksheet.Host.Tools.Speaking

namespace Worksheet.Host.Tools

open Text (Octets)

/-- A name in a directory. -/
def under (directory name : Octets) : Octets :=
  if directory.getLast? = some '/' then directory ++ name else directory ++ '/' :: name

/-- How deep a tree of directories may be. -/
def treeDepth : Nat := 4096

/-- The result of a change; an error is told of, behind what could not be done. -/
def told (i : Invocation) (doing : String) (r : Except Errno Unit) : Task Bool := do
  match r with
  | .ok () => return true
  | .error e =>
    complain i (doing ++ ": " ++ e.text)
    return false

/-- Tells of what has been done, if that is asked for. -/
def announce (i : Invocation) (o : Options) (message : String) : Task Unit := do
  if o.has "v" then put i 1 (Octets.ofString (message ++ "\n"))

def isDirectory (name : Octets) : Task Bool := do
  match ← Task.call (.examine name) with
  | .ok kind => return kind = .directory
  | .error _ => return false
/-! ## Modes -/

/-- Gives a file another mode. -/
def setMode (name : Octets) (mode : Mode) : Task (Except Errno Unit) :=
  Task.call (.setMode name mode)

/-- The mode of a file, or none at all. -/
def modeAt (name : Octets) : Task Mode := do
  match ← Task.call (.mode true name) with
  | .ok mode => return mode
  | .error _ => return 0

/-- What a change has failed with. -/
def errno? (r : Except Errno Unit) : Option Errno :=
  match r with
  | .error e => some e
  | .ok () => none

/-! ## Questions -/

/-- How a question names a kind of file. -/
def kindName : FileKind → String
  | .directory => "directory"
  | .regular _ size => if size = 0 then "regular empty file" else "regular file"
  | .device => "character special file"
  | .link => "symbolic link"
  | .fifo => "fifo"

/-- Asks a question; the answer is read from the input. -/
def agrees (i : Invocation) (question : String) : Task Bool := do
  Task.errText (i.name.spelled ++ ": " ++ question ++ "? ")
  match ← (Stream.ofDescriptor 0).line '\n' with
  | .ok (answer, s) =>
    s.release
    return answer.head? = some 'y' || answer.head? = some 'Y'
  | .error _ => return false

end Worksheet.Host.Tools
