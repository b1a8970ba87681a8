-- The configuration that a command works with: the one in a file, or the defaults, changed by the
-- options of the command line.
import Worksheet.Cli.Arguments
import Worksheet.Config.Validation
import Worksheet.Disk.Access

namespace Worksheet

namespace Cli

/-! ## Options as fields -/

/-- An empty text says nothing. -/
def textSaid (value : Option String) : Option String := value.filter fun s => !s.isEmpty

/-- Zero says nothing. -/
def numberSaid (value : Option Double) : Option Double := value.filter fun x => !x.isZero

namespace Overrides

/-- The fields that the options set. -/
def fields (o : Overrides) : List (String × Json) :=
  (textSaid o.language).toList.map (fun s => ("language", .string s)) ++
  (textSaid o.outputDirectory).toList.map (fun s => ("output_directory", .string s)) ++
  (numberSaid o.timeout).toList.map fun x => ("timeout_sec", .real x)

end Overrides

def setFields (changes fields : List (String × Json)) : List (String × Json) :=
  changes.foldl (fun fields (key, value) => Json.setField key value fields) fields

/-- All fields of the changed configuration are checked again. -/
def override (o : Overrides) (c : Config) : Except (List FieldFault) Config :=
  match o.fields with
  | [] => .ok c
  | changes => Config.ofFields .values (setFields changes c.fields)

/-! ## Loading -/

/-- Why there is no configuration to work with. -/
inductive ConfigFault
  | unreadable (fault : Fault)
  | invalid (faults : List FieldFault)

namespace ConfigFault

def message : ConfigFault → String
  | unreadable fault => fault.message
  | invalid faults => FieldFault.listText faults

end ConfigFault

/-- The configuration in a file; a name that is empty or missing stands for the defaults. -/
def baseConfig (file : Option String) (d : Disk) : Except ConfigFault Config :=
  match textSaid file with
  | none => .ok .defaults
  | some file =>
    match (Disk.readText (.ofString file) d).1 with
    | .error fault => .error (.unreadable fault)
    | .ok text => (Config.ofText text).mapError .invalid

def loadConfig (o : Overrides) (d : Disk) : Except ConfigFault Config :=
  match baseConfig o.config d with
  | .error fault => .error fault
  | .ok c => (override o c).mapError .invalid

end Cli

end Worksheet
