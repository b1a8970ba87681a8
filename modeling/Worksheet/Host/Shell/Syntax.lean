-- The command language: words with what is to be expanded in them, and commands.
import Worksheet.Text.Octets

namespace Worksheet.Host.Shell

open Text (Octets)

/-- What a redirection does with its descriptor. `replace` empties a file even where that is
refused to `output`. -/
inductive Direction
  | input
  | output
  | replace
  | append
  | both
  | copy
  | text
  deriving DecidableEq, Repr

mutual

/-- A part of a word. Quoted parts are not split and are no patterns. -/
inductive Part
  | text (quoted : Bool) (text : Octets)
  | parameter (quoted : Bool) (name : Octets) (use : Use)
  | command (quoted : Bool) (c : Command)
  | arithmetic (quoted : Bool) (word : List Part)

/-- How the value of a parameter is used. `instead` has one of four signs: what stands for a
parameter that is missing, or with the flag also for an empty one. -/
inductive Use
  | value
  | length
  | instead (sign : Char) (orEmpty : Bool) (word : List Part)
  | trim (atEnd longest : Bool) (pattern : List Part)
  | wrong

/-- A command. Lines are those of the messages about it. -/
inductive Command
  | nothing
  | simple (line : Nat) (assignments : List (Octets × List Part)) (words : List (List Part))
      (redirections : List Redirection)
  | pipeline (stages : List Command)
  | negated (c : Command)
  | both (a b : Command)
  | either (a b : Command)
  | sequence (a b : Command)
  | background (c : Command)
  | subshell (line : Nat) (c : Command) (redirections : List Redirection)
  | redirected (line : Nat) (c : Command) (redirections : List Redirection)
  | conditional (test yes no : Command)
  | loop (wanted : Bool) (test body : Command)
  | each (line : Nat) (name : Octets) (words : Option (List (List Part))) (body : Command)
  | choice (line : Nat) (word : List Part) (branches : List (List (List Part) × Command))
  | function (line : Nat) (name : Octets) (body : Command)

inductive Redirection
  | redirection (descriptor : Nat) (direction : Direction) (word : List Part)

end

abbrev Word := List Part

/-- A script that cannot be read: the line, and what is wrong there. -/
structure SyntaxFault where
  line : Nat
  message : String
  deriving DecidableEq, Repr

def isNameStart (c : Char) : Bool := c.isAlpha || c = '_'

def isNameChar (c : Char) : Bool := c.isAlphanum || c = '_'

def isName (text : Octets) : Bool :=
  text.head?.any isNameStart && text.all isNameChar

/-- The names of the commands of the shell whose failures end it, and whose assignments stay. -/
def specialNames : List String :=
  [".", ":", "break", "continue", "eval", "exec", "exit", "export", "local", "readonly", "return",
    "set", "shift", "times", "trap", "unset"]

/-- The name of an assignment that a word spells without quotes, and the word of its value. -/
def assignment? : Word → Option (Octets × Word)
  | .text false text :: rest =>
    let name := text.takeWhile isNameChar
    match text.drop name.length with
    | '=' :: more => if isName name then some (name, .text false more :: rest) else none
    | _ => none
  | _ => none

end Worksheet.Host.Shell
