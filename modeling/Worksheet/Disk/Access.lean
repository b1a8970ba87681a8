-- Access to the disk by path, with the faults that it can end in.
import Worksheet.Disk.Tree
import Worksheet.Fault
import Worksheet.Text.Split

namespace Worksheet

open Text (Bytes)

namespace Disk

/-- No path of the system holds a character of code zero. -/
def guardPath (path : String) : Except Fault Unit :=
  if path.toList.contains (Char.ofNat 0) then .error (.value .nulByte) else .ok ()

/-- The content of a file and its time of last change. -/
def readBytes (path : Path) : Act Disk (Bytes × Int) := fun d =>
  match guardPath path.text with
  | .error e => (.error e, d)
  | .ok () =>
    match d.readFile path.way.octets with
    | .ok found => (.ok found, d)
    | .error e => (.error (.system (.onPath e path.text)), d)

/-- Replaces the content of a file, or makes the file in a directory that exists. A failure after
the file has been opened is about no path. -/
def writeBytes (path : Path) (content : Bytes) : Act Disk Unit := fun d =>
  match guardPath path.text with
  | .error e => (.error e, d)
  | .ok () =>
    match d.openToWrite d.current Mode.usualMask true path.way.octets with
    | .error e => (.error (.system (.onPath e path.text)), d)
    | .ok (place, d') =>
      match d'.fill place content with
      | .ok d'' => (.ok (), d'')
      | .error e => (.error (.system (.plain e)), d')

/-- Makes a directory and those above it that are missing. -/
def ensurePath (path : Path) : Act Disk Unit := fun d =>
  match guardPath path.text with
  | .error e => (.error e, d)
  | .ok () =>
    match d.makeWay path.way with
    | (.ok (), d') => (.ok (), d')
    | (.error (.failed e above), d') => (.error (.system (.onWay e above)), d')
    | (.error .tooDeep, d') => (.error .tooDeep, d')

/-- The absolute form of a path, seen from the current directory. -/
def resolve (d : Disk) (path : Path) : Except Fault Path :=
  match guardPath path.text with
  | .error e => .error e
  | .ok () =>
    let place := d.resolvePlace path.way.octets
    if d.isLoop place then .error (.linkLoop place.path) else .ok place.path

/-- A text file: UTF-8, with every line end read as a line feed. -/
def readText (path : Path) : Act Disk String := fun d =>
  match readBytes path d with
  | (.error e, d') => (.error e, d')
  | (.ok (content, _), d') =>
    match Text.Utf8.decode content with
    | .error bad => (.error (.undecodable bad), d')
    | .ok cs => (.ok (String.ofList (Text.unifyLineEnds cs)), d')

/-- Makes a new directory in the scratch space. -/
def openScratch (label : String) : Act Disk Place := fun d =>
  match d.makeScratch label with
  | (place, .ok d') => (.ok place, d')
  | (place, .error e) => (.error (.system (.onWay e place.way)), d)

/-- A tree with so many levels can be taken away at most. -/
def maxRemovedLevels : Nat := 985

/-- Takes a scratch directory away with all that is in it, whatever the modes say; one that has
gone is no loss. What stands in its place stays, and is a fault, and so does a tree that is too
deep. -/
def removeScratch (place : Place) : Act Disk Unit := fun d =>
  let path := place.path.text
  match d.node? place with
  | none => (.ok (), d)
  | some (.directory mode modified entries) =>
    if maxRemovedLevels < (Node.directory mode modified entries).depth then
      (.error (.recursion "maximum recursion depth exceeded"), d)
    else (.ok (), d.erase place)
  | some (.link ..) =>
    match d.statFrom [] place.octets with
    | .ok _ => (.error (.system (.stated none "Cannot call rmtree on a symbolic link")), d)
    | .error .noEntry => (.ok (), d)
    | .error e => (.error (.system (.onPath e path)), d)
  | some _ => (.error (.system (.onPath .notDirectory path)), d)

def currentPath (d : Disk) : Path := d.current.path

end Disk

end Worksheet
