-- Compiler backends, one for each language; the command line that a configuration gives them, and
-- the one that it asks for.
import Worksheet.Compile.Bytecode
import Worksheet.Compile.Javac
import Worksheet.Config.Basic
import Worksheet.Fault
import Worksheet.Report
import Worksheet.Request

namespace Worksheet

/-! ## Backends -/

/-- A compiler: what its sources are called, what it wants to know of an entry point, and a run
on a command line. -/
structure Backend (σ : Type) where
  name : String
  extension : String
  entryArguments : String → List String
  run : List String → Act σ Report

namespace Backend

/-- Class path, output directory, configured options, further options, and the source last. The
entries of a request come before the configured ones. -/
def arguments (c : Config) (source : Path) (further classpath : List String) : List String :=
  let entries := classpath ++ c.compilerClasspath
  let path := if entries.isEmpty then [] else ["-cp", joinClasspath entries]
  let directory := match c.outputDirectory with
    | some d => if d.isEmpty then [] else ["-d", d]
    | none => []
  path ++ directory ++ c.compilerArguments ++ further ++ [source.text]

/-- Compiles one source as a configuration says. -/
def compile {σ : Type} (b : Backend σ) (c : Config) (source : Path)
    (further classpath : List String) : Act σ Report :=
  b.run (arguments c source further classpath)

/-- The bytecode compiler is told the module by name. -/
def moduleArguments (entryPoint : String) : List String := ["-module", entryPoint]

end Backend

/-! ## The choice of a backend -/

/-- What compilers work with: the code generator, and external programs. -/
structure Toolchain (σ : Type) where
  generate : CodeGenerator σ
  runTool : ToolRunner σ
  getDisk : σ → Disk
  setDisk : Disk → σ → σ

namespace Toolchain

def bytecode {σ : Type} (t : Toolchain σ) : Backend σ where
  name := "python"
  extension := "py"
  entryArguments := Backend.moduleArguments
  run := Bytecode.run t.generate t.getDisk t.setDisk

/-- An external compiler finds the entry point by itself. -/
def javac {σ : Type} (t : Toolchain σ) (j : Javac) : Backend σ where
  name := "javac"
  extension := "java"
  entryArguments _ := []
  run := j.run t.runTool t.getDisk t.setDisk

def select {σ : Type} (t : Toolchain σ) (c : Config) : Backend σ :=
  match c.language with
  | .python => t.bytecode
  | .java => t.javac ⟨c.javacCommand, c.compileTimeout⟩

end Toolchain

end Worksheet
