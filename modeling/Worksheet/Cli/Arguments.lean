-- The command line of the program: three commands, with options that they share.
import Worksheet.Options.Parse

namespace Worksheet

namespace Cli

/-! ## Grammar -/

def sharedParameters : List Parameter := [
  Grammar.helpParameter,
  ⟨["--config"], "config", .text none, false, "JSON file with EvaluatorConfig fields"⟩,
  ⟨["--language"], "language", .choice ["python", "java"], false,
    "Compiler backend (default: python)"⟩,
  ⟨["--output-dir"], "output_dir", .text none, false,
    "Compiler output directory (default: in memory)"⟩,
  ⟨["--verbose", "-v"], "verbose", .flag, false, "Debug logging"⟩]

def sourceParameters : List Parameter := [
  ⟨[], "source", .text none, true, "File containing the instrumented source"⟩,
  ⟨["--entry", "-e"], "entry", .text none, true,
    "Fully qualified entry point name (e.g., demo.Main)"⟩,
  ⟨["--classpath", "-cp"], "classpath", .texts, false, "Classpath entry (repeatable)"⟩]

def runParameters : List Parameter := [
  ⟨["--cwd"], "cwd", .text (some "."), false,
    "Working directory of the child process (default: current directory)"⟩,
  ⟨["--timeout", "-t"], "timeout", .number, false, "Kill the program after this many seconds"⟩,
  ⟨["--json"], "json", .flag, false, "Print the outcome as JSON"⟩]

def program : String := "worksheet-eval"

def command (name about : String) (parameters : List Parameter) : CommandGrammar :=
  ⟨name, about, ⟨program ++ " " ++ name, none, parameters, true⟩⟩

def commands : CommandSet where
  main := ⟨program, some "Compile and run instrumented worksheet source",
    [Grammar.helpParameter], true⟩
  key := "command"
  about := "Commands"
  commands := [
    command "run" "Compile and run a worksheet"
      (sharedParameters ++ sourceParameters ++ runParameters),
    command "compile" "Only compile a worksheet" (sharedParameters ++ sourceParameters),
    command "config" "Show the effective configuration" sharedParameters]

/-! ## Arguments -/

/-- The options that change a configuration. An option that was not given is absent. -/
structure Overrides where
  config : Option String
  language : Option String
  outputDirectory : Option String
  timeout : Option Double
  deriving DecidableEq

/-- A worksheet on the command line. The entry point is missing when its option was given a value
without words. -/
structure SourceArguments where
  source : String
  entry : Option String
  classpath : List String
  deriving DecidableEq, Repr

/-- A directory is missing when its option was given a value without words. -/
inductive Command
  | run (source : SourceArguments) (cwd : Option String) (json : Bool)
  | compile (source : SourceArguments)
  | config
  deriving DecidableEq, Repr

structure Arguments where
  command : Option Command
  overrides : Overrides
  deriving DecidableEq

/-! ## Reading -/

def text? (values : List (String × ParameterValue)) (key : String) : Option String :=
  match values.lookup key with
  | some (.text s) => some s
  | _ => none

/-- How an item without words is written. -/
def wordlessText : String := "[]"

def texts (values : List (String × ParameterValue)) (key : String) : List String :=
  match values.lookup key with
  | some (.texts l) => l.map fun item => item.getD wordlessText
  | _ => []

def flag (values : List (String × ParameterValue)) (key : String) : Bool :=
  match values.lookup key with
  | some (.flag b) => b
  | _ => false

def number? (values : List (String × ParameterValue)) (key : String) : Option Double :=
  match values.lookup key with
  | some (.number x) => some x
  | _ => none

def overridesOf (values : List (String × ParameterValue)) : Overrides :=
  ⟨text? values "config", text? values "language", text? values "output_dir",
    number? values "timeout"⟩

def sourceOf (values : List (String × ParameterValue)) : SourceArguments :=
  ⟨(text? values "source").getD "", text? values "entry", texts values "classpath"⟩

def commandOf (name : String) (values : List (String × ParameterValue)) : Command :=
  if name = "run" then
    .run (sourceOf values) (text? values "cwd") (flag values "json")
  else if name = "compile" then .compile (sourceOf values)
  else .config

def argumentsOf (r : CommandLine.CommandReading) : Arguments :=
  ⟨r.command.map fun name => commandOf name r.values, overridesOf r.values⟩

def readArguments (words : List String) : Except Refusal Arguments :=
  (CommandLine.readCommand commands words).map argumentsOf

end Cli

end Worksheet
