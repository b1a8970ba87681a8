-- What tools have in common: how they are called, and how they complain.
import Worksheet.Host.Program
import Worksheet.Host.Tools.Quoting

namespace Worksheet.Host

open Text (Octets)

namespace Tools

/-- How a tool has been called: the name that it goes by, the words after it, and the variables. -/
structure Invocation where
  name : Octets
  words : List Octets
  environment : Environment

/-- A tool gives its exit code. -/
abbrev Tool := Invocation → Task Nat

def word (s : String) : Octets := s.toList

/-! ## Names in messages -/

/-- A name as it stands in most messages. -/
def bare (name : Octets) : String := (Quoting.bare name).spelled

/-- A name that is always in quotes. -/
def inPlainQuotes (name : Octets) : String := (Quoting.quoted name).spelled

/-- A word in the quotes of a sentence. -/
def inQuotes (name : Octets) : String := (Quoting.sentence name).spelled

/-! ## Complaints -/

/-- A complaint of a tool, on a line of its own. -/
def complain (i : Invocation) (message : String) : Task Unit :=
  Task.errText (i.name.spelled ++ ": " ++ message ++ "\n")

/-- A complaint about a file. -/
def complainOf (i : Invocation) (name : Octets) (e : Errno) : Task Unit :=
  complain i (bare name ++ ": " ++ e.text)

/-- Ends a tool with a complaint. -/
def fail {α : Type} (i : Invocation) (code : Nat) (message : String) : Task α := do
  complain i message
  Task.exit code

/-- Ends a tool that is not used as it is to be. -/
def advise {α : Type} (i : Invocation) (code : Nat) : Task α := do
  Task.errText ("Try '" ++ i.name.spelled ++ " --help' for more information.\n")
  Task.exit code

def misuse {α : Type} (i : Invocation) (code : Nat) (message : String) : Task α := do
  complain i message
  advise i code

/-- The exit code of a tool that did what it could. -/
def codeOf (good : Bool) : Nat := if good then 0 else 1

/-! ## Writing -/

/-- Writes to the output; a tool that cannot do so ends there. -/
def put (i : Invocation) (code : Nat) (text : Octets) : Task Unit := do
  if text.isEmpty then pure ()
  else match ← Task.tryWrite 1 text with
    | none => pure ()
    | some e => fail i code ("write error: " ++ e.text)

/-- Does something with each item; says whether all went well. -/
def forEach {α : Type} (step : α → Task Bool) : List α → Task Bool
  | [] => pure true
  | a :: rest => do
    let good ← step a
    let others ← forEach step rest
    return good && others

/-- What the words of a tool are without a directory before its name. -/
def shortName (name : Octets) : Octets :=
  (name.reverse.takeWhile (· ≠ '/')).reverse

end Tools

end Worksheet.Host
