-- The launcher: the program that a runtime starts to run one entry point from a class path.
import Worksheet.Disk.Tree
import Worksheet.Fault
import Worksheet.Options.Parse

namespace Worksheet

namespace Launch

/-! ## Search -/

/-- Bytecode comes before a source. -/
def suffixes : List String := [".pyc", ".py"]

/-- Joins two path texts with one slash; an absolute text takes the place of the first. -/
def joinText (base part : String) : String :=
  if part.toList.head? = some '/' then part
  else if base.isEmpty || base.toList.getLast? = some '/' then base ++ part
  else base ++ "/" ++ part

/-- The path of a dotted name below a class path entry, without a suffix. -/
def basePath (entry entryPoint : String) : String :=
  (Text.splitString '.' entryPoint).foldl joinText entry

/-- The paths that are tried, in order. -/
def candidates (entries : List String) (entryPoint : String) : List String :=
  entries.flatMap fun entry => suffixes.map fun s => basePath entry entryPoint ++ s

/-- The first path that names a regular file. -/
def find? (d : Disk) (entries : List String) (entryPoint : String) : Option String :=
  (candidates entries entryPoint).find? fun path => d.isFile (Text.Octets.ofString path)

/-- The entries of a class path text; empty ones do not count. -/
def entriesOf (classpath : String) : List String :=
  (Text.splitString ':' classpath).filter fun e => !e.isEmpty

/-! ## The program -/

/-- The class path has two names, which are never abbreviated by two dashes. -/
def grammar : Grammar where
  program := "worksheet-launcher"
  about := none
  parameters := [
    Grammar.helpParameter,
    ⟨["-cp", "-classpath"], "classpath", .text (some ""), false, ""⟩,
    ⟨[], "entry_point", .text none, true, ""⟩]
  abbreviations := false

/-- What a launch comes to: a file to run as the main program, with the search path and the words
that it sees; the message that there is none; or a fault. -/
inductive Launched
  | run (file : String) (searchPath : List String) (words : List String)
  | notFound (message : String)
  | broken (fault : Fault)
  deriving DecidableEq

def text? (values : List (String × ParameterValue)) (key : String) : Option String :=
  match values.lookup key with
  | some (.text s) => some s
  | _ => none

/-- The exit status of the launcher. A program that it runs may end it with another one. -/
def Launched.status? : Launched → Option Nat
  | .run .. => some 0
  | .notFound _ => some 1
  | .broken _ => none

/-- The entries of the class path take the place of the first entry of the search path. -/
def launch (d : Disk) (searchPath : List String) (classpath entryPoint : String) : Launched :=
  let entries := entriesOf classpath
  match find? d entries entryPoint with
  | some file => .run file (entries ++ searchPath.drop 1) [entryPoint]
  | none => .notFound ("Error: Could not find or load main module " ++ entryPoint ++ "\n")

/-- A launch from a command line. A class path without words cannot be split. -/
def program (d : Disk) (searchPath : List String) (words : List String) :
    Except Refusal Launched :=
  (CommandLine.read grammar words).map fun values =>
    match text? values "classpath" with
    | some classpath => launch d searchPath classpath ((text? values "entry_point").getD "")
    | none => .broken (.noAttribute "list" "split")

end Launch

end Worksheet
