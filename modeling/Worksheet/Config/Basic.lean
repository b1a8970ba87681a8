-- The configuration that all evaluations of one evaluator share.
import Worksheet.Json.Writer

namespace Worksheet

inductive Language
  | python
  | java
  deriving DecidableEq, Repr

namespace Language

def text : Language → String
  | python => "python"
  | java => "java"

def ofText? (s : String) : Option Language := [python, java].find? fun l => l.text = s

end Language

structure Config where
  language : Language
  runtimeCommand : Option (List String)
  javacCommand : String
  compilerClasspath : List String
  compilerArguments : List String
  outputDirectory : Option String
  sourceDirectory : Option String
  timeout : Option Double
  compileTimeout : Double
  outputEncoding : String
  deriving DecidableEq

/-- The programs that come with the library: the interpreter of worksheets and its launcher. -/
structure Installation where
  interpreter : String
  launcher : String
  deriving DecidableEq, Repr

namespace Config

def defaults : Config where
  language := .python
  runtimeCommand := none
  javacCommand := "javac"
  compilerClasspath := []
  compilerArguments := []
  outputDirectory := none
  sourceDirectory := none
  timeout := none
  compileTimeout := .ofInt 60
  outputEncoding := "utf-8"

instance : Inhabited Config := ⟨defaults⟩

def defaultRuntime (i : Installation) : Language → List String
  | .java => ["java"]
  | .python => [i.interpreter, i.launcher]

/-- The command that runs an entry point. An empty one counts as not given. -/
def resolvedRuntime (c : Config) (i : Installation) : List String :=
  match c.runtimeCommand with
  | some (w :: ws) => w :: ws
  | _ => defaultRuntime i c.language

def fields (c : Config) : List (String × Json) := [
  ("language", .string c.language.text),
  ("runtime_command", Json.ofOption Json.ofStrings c.runtimeCommand),
  ("javac_command", .string c.javacCommand),
  ("compiler_classpath", Json.ofStrings c.compilerClasspath),
  ("compiler_arguments", Json.ofStrings c.compilerArguments),
  ("output_directory", Json.ofOption .string c.outputDirectory),
  ("source_directory", Json.ofOption .string c.sourceDirectory),
  ("timeout_sec", Json.ofOption .real c.timeout),
  ("compile_timeout_sec", .real c.compileTimeout),
  ("output_encoding", .string c.outputEncoding)]

def toJson (c : Config) : Json := .object c.fields

/-- The configuration text: one field a line. -/
def text (c : Config) : String := c.toJson.lines Json.storedStyle

end Config

end Worksheet
