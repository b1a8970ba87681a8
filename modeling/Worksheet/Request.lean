-- A request for one evaluation, and the command that runs its entry point.
import Worksheet.Path
import Worksheet.Text.CodePoint

namespace Worksheet

structure Request where
  entryPoint : String
  source : Text.Points
  classpath : List String
  workingDirectory : Path
  deriving DecidableEq, Repr

/-- The last part of a dotted name. -/
def simpleName (entryPoint : String) : String :=
  String.ofList (Text.afterLast '.' entryPoint.toList)

/-- A class path is one text, with a colon between its entries. -/
def joinClasspath (entries : List String) : String := ":".intercalate entries

/-- A runtime is told the class path and the entry point after its own words. -/
def runCommand (runtime classpath : List String) (entryPoint : String) : List String :=
  runtime ++ ["-cp", joinClasspath classpath, entryPoint]

end Worksheet
