-- Instrumented sources on the disk. The file of an entry point is named after its simple name,
-- and each new source replaces the one before it.
import Worksheet.Disk.Access
import Worksheet.Request

namespace Worksheet

/-- Where sources are written, and their extension without a point in front. -/
structure Materializer where
  extension : String
  directory : Option Path
  deriving DecidableEq, Repr

/-- A source that has been written. -/
structure Materialized where
  path : Path
  simpleName : String
  deriving DecidableEq, Repr

namespace Materializer

def ofExtension (extension : String) (directory : Option Path) : Materializer :=
  ⟨String.ofList (extension.toList.dropWhile (· = '.')), directory⟩

def fileName (m : Materializer) (simpleName : String) : String :=
  simpleName ++ instrumentedSuffix ++ "." ++ m.extension

/-- The path of an entry point's source. -/
def sourcePath (m : Materializer) (current : Path) (entryPoint : String) : Except Fault Path :=
  let name := simpleName entryPoint
  if name.isEmpty then .error (.materialization (.noName entryPoint))
  else .ok ((m.directory.getD current).joinString (m.fileName name))

/-- Writes encoded text, with the failures of the disk told as failures of this stage. -/
def writeSource (path : Path) (content : Text.Bytes) : Act Disk Unit := fun d =>
  match Disk.writeBytes path content d with
  | (.error (.system e), d') => (.error (.materialization (.unwritable path e)), d')
  | r => r

/-- The text is encoded before the file is opened, so a source that has no encoding leaves the
file as it is. -/
def materialize (m : Materializer) (entryPoint : String) (source : Text.Points) :
    Act Disk Materialized := fun d =>
  match m.sourcePath d.currentPath entryPoint with
  | .error e => (.error e, d)
  | .ok path =>
    match Text.Utf8.encode source with
    | .error run => (.error (.materialization (.unencodable path run)), d)
    | .ok content =>
      match writeSource path content d with
      | (.error e, d') => (.error e, d')
      | (.ok (), d') => (.ok ⟨path, simpleName entryPoint⟩, d')

end Materializer

end Worksheet
