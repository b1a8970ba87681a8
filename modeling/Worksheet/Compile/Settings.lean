-- The command line of the bytecode compiler: flags, options with a value, and exactly one
-- source. Of an option given more than once the last value counts.
import Worksheet.Path
import Worksheet.Text.Digit
import Worksheet.Text.Identifier
import Worksheet.Text.Quoted

namespace Worksheet

/-- The ending that every instrumented source has before its extension. -/
def instrumentedSuffix : String := "$instrumented"

/-! ## Words of a command line -/

inductive SettingsFlag
  | fatalWarnings
  | noWarnings
  deriving DecidableEq, Repr

inductive SettingsOption
  | outputDirectory
  | classpath
  | module
  | optimize
  deriving DecidableEq, Repr

namespace SettingsFlag

def ofWord? (word : String) : Option SettingsFlag :=
  if word = "-Werror" then some fatalWarnings
  else if word = "-nowarn" then some noWarnings
  else none

end SettingsFlag

namespace SettingsOption

/-- Two words name the class path. -/
def ofWord? (word : String) : Option SettingsOption :=
  if word = "-d" then some outputDirectory
  else if word = "-cp" then some classpath
  else if word = "-classpath" then some classpath
  else if word = "-module" then some module
  else if word = "-optimize" then some optimize
  else none

end SettingsOption

/-- An item of a command line that the compiler understands. -/
inductive SettingsItem
  | flag (flag : SettingsFlag)
  | option (option : SettingsOption) (value : String)
  | source (word : String)
  deriving DecidableEq, Repr

/-- Why a command line is refused. -/
inductive SettingsFault
  | missingValue (word : String)
  | unknownOption (word : String)
  | sourceCount (sources : List String)
  | optimizeLevel (shown : String)
  | moduleName (name : String)
  deriving DecidableEq, Repr

namespace SettingsFault

def message : SettingsFault → String
  | missingValue word => "Missing value for option " ++ word
  | unknownOption word => "Unknown compiler option: " ++ word
  | sourceCount sources =>
    "Expected exactly one source file, got " ++ toString sources.length ++ ": " ++
      Text.quotedList sources
  | optimizeLevel shown => "Invalid optimization level: " ++ shown
  | moduleName name => "Not a valid module name: " ++ Text.quoted name

end SettingsFault

/-- A word that opens an option, known or not. -/
def isOptionWord (word : String) : Bool := word.toList.head? = some '-'

/-- Cuts a command line into items. The word after an option is its value, whatever it says. -/
def readItems : List String → Except SettingsFault (List SettingsItem)
  | [] => .ok []
  | word :: rest =>
    match SettingsFlag.ofWord? word with
    | some f => (readItems rest).map (.flag f :: ·)
    | none =>
      match SettingsOption.ofWord? word with
      | some o =>
        match rest with
        | [] => .error (.missingValue word)
        | value :: rest' => (readItems rest').map (.option o value :: ·)
      | none =>
        if isOptionWord word then .error (.unknownOption word)
        else (readItems rest).map (.source word :: ·)

/-! ## Settings -/

/-- How one source is compiled. -/
structure Settings where
  source : Path
  outputDirectory : Option Path
  classpath : String
  module : String
  optimize : Int
  fatalWarnings : Bool
  noWarnings : Bool
  deriving DecidableEq, Repr

namespace Settings

def sources (items : List SettingsItem) : List String :=
  items.filterMap fun
    | .source word => some word
    | _ => none

/-- The last value given to an option. -/
def lastValue? (o : SettingsOption) (items : List SettingsItem) : Option String :=
  (items.filterMap fun
    | .option o' value => if o' = o then some value else none
    | _ => none).getLast?

/-- The module of a source: its stem without the ending of instrumented sources. -/
def moduleOfSource (source : Path) : String :=
  let stem := source.stem.toList
  let ending := instrumentedSuffix.toList
  if Text.endsWith ending stem then String.ofList (stem.take (stem.length - ending.length))
  else source.stem

def isModuleName (name : String) : Bool :=
  (Text.split '.' name.toList).all Text.isIdentifier

/-- A level is a whole number from -1 to 2. -/
def readLevel (value : String) : Except SettingsFault Int :=
  match Text.readWhole value.toList with
  | .error _ => .error (.optimizeLevel value)
  | .ok n => if -1 ≤ n ∧ n ≤ 2 then .ok n else .error (.optimizeLevel (toString n))

def readOptimize (items : List SettingsItem) : Except SettingsFault Int :=
  match lastValue? .optimize items with
  | none => .ok (-1)
  | some value => readLevel value

/-- The settings that a list of items describes. -/
def ofItems (items : List SettingsItem) : Except SettingsFault Settings :=
  match sources items with
  | [word] =>
    match readOptimize items with
    | .error e => .error e
    | .ok level =>
      let source := Path.ofString word
      let name := (lastValue? .module items).getD (moduleOfSource source)
      if isModuleName name then
        .ok {
          source
          outputDirectory := (lastValue? .outputDirectory items).map Path.ofString
          classpath := (lastValue? .classpath items).getD ""
          module := name
          optimize := level
          fatalWarnings := items.contains (.flag .fatalWarnings)
          noWarnings := items.contains (.flag .noWarnings) }
      else .error (.moduleName name)
  | words => .error (.sourceCount words)

def ofArguments (arguments : List String) : Except SettingsFault Settings :=
  match readItems arguments with
  | .error e => .error e
  | .ok items => ofItems items

end Settings

end Worksheet
