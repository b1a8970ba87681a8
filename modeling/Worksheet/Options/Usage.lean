-- The texts about a grammar: a usage line that wraps at the width of a terminal, and a help page.
import Worksheet.Options.Grammar

namespace Worksheet

namespace Usage

/-- Columns of a line of text. -/
def width : Nat := 78

/-- The column of the help texts. -/
def maxHelpColumn : Nat := 24

def spaces (n : Nat) : String := String.ofList (List.replicate n ' ')

/-! ## Parameters -/

/-- The word that stands for the value of an option. -/
def valueWord (p : Parameter) : String :=
  match p.kind with
  | .choice choices => "\x7b" ++ ",".intercalate choices ++ "\x7d"
  | _ => if p.isPositional then p.key else p.key.toUpper

/-- The parts of a parameter in a usage line. A line may break between parts. -/
def parts (p : Parameter) : List String :=
  if p.isPositional then [valueWord p]
  else
    let words := p.names.take 1 ++ (if p.takesValue then [valueWord p] else [])
    if p.required then words else ["[" ++ " ".intercalate words ++ "]"]

/-- The ways to write a parameter, for the help page. -/
def invocation (p : Parameter) : String :=
  if p.isPositional then valueWord p
  else if p.takesValue then ", ".intercalate (p.names.map fun n => n ++ " " ++ valueWord p)
  else ", ".intercalate p.names

/-! ## The usage line -/

/-- Words, with the number of columns used, are gathered into lines. A line begins with an
indent, and takes each word that still fits, and at least one. -/
def gather (indent : Nat) : (column : Nat) → (line : List String) → List String →
    List (List String)
  | _, [], [] => []
  | _, line, [] => [line.reverse]
  | column, [], w :: rest => gather indent (column + w.length + 1) [w] rest
  | column, line, w :: rest =>
    if width < column + 1 + w.length then
      line.reverse :: gather indent (indent + w.length) [w] rest
    else gather indent (column + w.length + 1) (w :: line) rest

def gatherLines (indent : Nat) (words : List String) : List String :=
  (gather indent (indent - 1) [] words).map fun line => spaces indent ++ " ".intercalate line

def leader : String := "usage: "

/-- The usage of a program from its option parts and its other parts: on one line if it fits,
else with the other parts on lines of their own. -/
def usageOf (program : String) (options others : List String) : String :=
  let whole := " ".intercalate (program :: options ++ others)
  if leader.length + whole.length ≤ width then leader ++ whole ++ "\n"
  else
    let indent := leader.length + program.length + 1
    let first := (gather indent (leader.length - 1) [] (program :: options)).map fun line =>
      " ".intercalate line
    let wrapped := match first with
      | [] => []
      | l :: ls => l :: ls.map (spaces indent ++ ·)
    leader ++ "\n".intercalate (wrapped ++ gatherLines indent others) ++ "\n"

def usage (g : Grammar) : String :=
  usageOf g.program (g.options.flatMap parts) (g.positionals.flatMap parts)

def commandWord (s : CommandSet) : String :=
  "\x7b" ++ ",".intercalate (s.commands.map (·.name)) ++ "\x7d"

def commandUsage (s : CommandSet) : String :=
  usageOf s.main.program (s.main.options.flatMap parts) [commandWord s, "..."]

/-! ## The help page -/

/-- An entry of the help page: how far it is indented, what it is about, and its text. -/
structure Entry where
  indent : Nat
  head : String
  about : String

def entryOf (p : Parameter) : Entry := ⟨2, invocation p, p.about⟩

/-- The words of a text in lines of a width; a line takes at least one word. -/
def fill (limit : Nat) : (line : List String) → (used : Nat) → List String → List String
  | [], _, [] => []
  | line, _, [] => [" ".intercalate line.reverse]
  | [], _, w :: rest => fill limit [w] w.length rest
  | line, used, w :: rest =>
    if limit < used + 1 + w.length then
      " ".intercalate line.reverse :: fill limit [w] w.length rest
    else fill limit (w :: line) (used + 1 + w.length) rest

/-- The column of the help texts of a page. A text starts on the line of its entry when the entry
leaves two blanks before that column. -/
def helpColumn (entries : List Entry) : Nat :=
  min ((entries.map fun e => e.head.length + 2).foldl max 0 + 2) maxHelpColumn

def writeEntry (column : Nat) (e : Entry) : String :=
  if e.about.isEmpty then spaces e.indent ++ e.head ++ "\n"
  else
    let lines := fill (width - column) [] 0 (e.about.splitOn " ")
    let head := spaces e.indent ++ e.head
    let first := if head.length + 2 ≤ column then head ++ spaces (column - head.length)
      else head ++ "\n" ++ spaces column
    first ++ ("\n" ++ spaces column).intercalate lines ++ "\n"

def chapter (column : Nat) (title : String) (entries : List Entry) : String :=
  if entries.isEmpty then ""
  else "\n" ++ title ++ ":\n" ++ String.join (entries.map (writeEntry column))

def page (usageText : String) (about : Option String) (others options : List Entry) : String :=
  let column := helpColumn (others ++ options)
  let aboutText := match about with
    | some t => "\n" ++ t ++ "\n"
    | none => ""
  usageText ++ aboutText ++ chapter column "positional arguments" others ++
    chapter column "options" options

def help (g : Grammar) : String :=
  page (usage g) g.about (g.positionals.map entryOf) (g.options.map entryOf)

def commandHelp (s : CommandSet) : String :=
  page (commandUsage s) s.main.about
    (⟨2, commandWord s, s.about⟩ :: s.commands.map fun c => ⟨4, c.name, c.about⟩)
    (s.main.options.map entryOf)

end Usage

end Worksheet
