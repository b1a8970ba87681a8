-- Grammars of command lines: named options, positional words, and commands with a grammar of
-- their own.
import Worksheet.Number.Numeral

namespace Worksheet

/-- What an option or a positional word stands for. -/
inductive ParameterKind
  | help
  | flag
  | text (fallback : Option String)
  | choice (choices : List String)
  | number
  | texts
  deriving DecidableEq, Repr

/-- A parameter of a command line. Without names it is a positional word. -/
structure Parameter where
  names : List String
  key : String
  kind : ParameterKind
  required : Bool
  about : String
  deriving DecidableEq, Repr

/-- The value of a parameter. A double dash that is joined to an option gives it a value without
words; so may be an item of a list. -/
inductive ParameterValue
  | absent
  | wordless
  | flag (value : Bool)
  | text (value : String)
  | number (value : Double)
  | texts (values : List (Option String))
  deriving DecidableEq

/-- The parameters of one command line. Where abbreviations are allowed, the beginning of a long
name stands for the name. -/
structure Grammar where
  program : String
  about : Option String
  parameters : List Parameter
  abbreviations : Bool
  deriving DecidableEq, Repr

/-- A command: its name, what it does, and the grammar of the words after it. -/
structure CommandGrammar where
  name : String
  about : String
  grammar : Grammar
  deriving DecidableEq, Repr

/-- A command line that begins with a command. -/
structure CommandSet where
  main : Grammar
  key : String
  about : String
  commands : List CommandGrammar
  deriving DecidableEq, Repr

namespace Parameter

def isPositional (p : Parameter) : Bool := p.names.isEmpty

/-- A help option and a flag stand alone; every other parameter has one value. -/
def takesValue (p : Parameter) : Bool :=
  match p.kind with
  | .help => false
  | .flag => false
  | _ => true

/-- The value of a parameter that is not given. -/
def initial (p : Parameter) : ParameterValue :=
  match p.kind with
  | .flag => .flag false
  | .texts => .texts []
  | .text (some s) => .text s
  | _ => .absent

/-- How a message calls a parameter. -/
def title (p : Parameter) : String :=
  if p.isPositional then p.key else "/".intercalate p.names

end Parameter

namespace Grammar

def options (g : Grammar) : List Parameter := g.parameters.filter fun p => !p.isPositional

def positionals (g : Grammar) : List Parameter := g.parameters.filter fun p => p.isPositional

/-- Each name of an option with its option, in the order of the grammar. -/
def optionNames (g : Grammar) : List (String × Parameter) :=
  g.options.flatMap fun p => p.names.map fun n => (n, p)

def helpParameter : Parameter :=
  ⟨["-h", "--help"], "help", .help, false, "show this help message and exit"⟩

end Grammar

/-- Why a command line is not carried out: help is asked for, or the line is wrong. Both carry
the text to print. -/
inductive Refusal
  | help (text : String)
  | usage (text : String)
  deriving DecidableEq, Repr

namespace Refusal

def exitCode : Refusal → Int
  | help _ => 0
  | usage _ => 2

end Refusal

end Worksheet
